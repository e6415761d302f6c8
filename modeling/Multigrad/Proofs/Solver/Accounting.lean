import Multigrad.Double.Completion
import Multigrad.Proofs.Solver.Journal

/-!
# What a run adds to the counters

A refused configuration counts nothing. A run that returns has counted the objective and its
gradient once, and every single objective once in each iteration. A run that fails has counted what
it had begun.
-/

namespace Multigrad

/-- The counters after the evaluations of the whole problem that were begun. -/
def Counters.begun (counters : Counters) (objective gradient : Bool) : Counters :=
  { counters with
    obj := counters.obj + objective.toNat
    grad := counters.grad + gradient.toNat }

theorem Counters.total_begun (counters : Counters) (objective gradient : Bool) :
    (counters.begun objective gradient).total
      = counters.total + objective.toNat + gradient.toNat := by
  simp only [total, problemSum, objectiveSum, begun, count, ProblemCounter.all, entries,
    ObjectiveCounter.all, List.map_cons, List.map_nil, List.foldr_cons, List.foldr_nil]
  omega

theorem Counters.Fits.begun {counters : Counters} {n : Nat} (hfits : counters.Fits n)
    (objective gradient : Bool) : (counters.begun objective gradient).Fits n :=
  ⟨hfits.nobj, fun counter => hfits.entries counter⟩

namespace Solver

variable {σ R : Type} [Scalar R] [Completion R]

/-- Whether a run begins to evaluate the objective at its initial point. -/
def startsObjective (source : OrderSource σ) (settings : Settings R) (orders : σ) : Bool :=
  (validate settings).isOk && settings.regularizer.isOk && (source.start orders).isOk

def startsGradient (source : OrderSource σ) (model : Model R) (settings : Settings R)
    (orders : σ) : Bool :=
  startsObjective source settings orders && (model.total (Grid.ofList model.problem.x0)).isOk

variable {source : OrderSource σ} {model : Model R} {settings : Settings R} {clock : Nat → R}
  {patience : Nat} {journal after : Journal σ R}

/-! ### What is begun -/

theorem startsGradient_of_startsObjective {orders : σ}
    (hstarts : startsObjective source settings orders = true) :
    startsGradient source model settings orders
      = (model.total (Grid.ofList model.problem.x0)).isOk := by
  rw [startsGradient, hstarts, Bool.true_and]

/-- A run that fails before it evaluates anything has begun nothing. -/
theorem prepare_error {failure : Failure R}
    (hprepare : prepare source model settings journal = .error failure after) :
    journal = after ∧ startsObjective source settings journal.orders = false
      ∧ (failure.IsRefusal → validate settings = .error failure) := by
  obtain h | ⟨⟨⟩, _, h, hrest⟩ := Run.bind_eq_error.mp hprepare
  · obtain ⟨hinvalid, rfl⟩ := Run.check_eq_error.mp h
    refine ⟨rfl, ?_, fun _ => hinvalid⟩
    rw [startsObjective, hinvalid]
    rfl
  obtain ⟨hvalid, rfl⟩ := Run.check_eq_ok.mp h
  obtain h | ⟨regularizer, _, h, hrest⟩ := Run.bind_eq_error.mp hrest
  · obtain ⟨mishap, hregularizer, rfl, rfl⟩ := Run.lift_eq_error.mp h
    refine ⟨rfl, ?_, False.elim⟩
    rw [startsObjective, hvalid, hregularizer]
    rfl
  obtain ⟨hregularizer, rfl⟩ := Run.lift_eq_ok.mp h
  obtain h | ⟨_, _, h, hrest⟩ := Run.bind_eq_error.mp hrest
  · obtain ⟨mishap, hstart, rfl, rfl⟩ := Run.start_eq_error.mp h
    refine ⟨rfl, ?_, False.elim⟩
    rw [startsObjective, hvalid, hregularizer, hstart]
    rfl
  -- Nothing can fail once the orders are there.
  obtain h | ⟨_, _, -, h⟩ := Run.bind_eq_error.mp hrest
  · exact (Run.note_ne_error h).elim
  · exact (Run.pure_ne_error h).elim

theorem startsObjective_of_prepare {regularizer : Regularizer R}
    (hprepare : prepare source model settings journal = .ok regularizer after) :
    startsObjective source settings journal.orders = true := by
  obtain ⟨hvalid, hregularizer, orders, hstart, -⟩ := prepare_eq_ok.mp hprepare
  rw [startsObjective, hvalid, hregularizer, hstart]
  rfl

omit [Completion R] in
/-- The gradient is begun only after the objective has a value. -/
theorem evaluateStart_error {failure : Failure R}
    (hevaluate : evaluateStart model journal = .error failure after) :
    { journal with
      counters := journal.counters.begun true (model.total (Grid.ofList model.problem.x0)).isOk }
        = after ∧ ¬failure.IsRefusal := by
  obtain h | ⟨objective, _, h, hrest⟩ := Run.bind_eq_error.mp hevaluate
  · obtain ⟨⟨reason, hobjective, rfl⟩, rfl⟩ := Run.evaluate_eq_error.mp h
    obtain ⟨mishap, htotal, -⟩ := mapError_eq_error.mp hobjective
    rw [htotal]
    exact ⟨rfl, id⟩
  obtain ⟨hobjective, rfl⟩ := Run.evaluate_eq_ok.mp h
  obtain h | ⟨_, _, -, h⟩ := Run.bind_eq_error.mp hrest
  · obtain ⟨⟨reason, -, rfl⟩, rfl⟩ := Run.evaluate_eq_error.mp h
    rw [mapError_eq_ok.mp hobjective]
    exact ⟨rfl, id⟩
  · exact (Run.pure_ne_error h).elim

/-! ### Failing runs -/

theorem accounted_run (plan : Plan R) {initial : σ}
    (hpermutes : source.Permutes initial plan.model.problem.nobj) (patience : Nat) (objective : R)
    (gradient : List R) :
    Run.Accounted source initial plan.model.problem.nobj
      (plan.run source patience objective gradient : Run σ R (Stats R)) := by
  apply (Run.accounted_lift _).bind
  intro _ _ _ _ _
  apply (plan.accounted_iterate hpermutes _ _).bind
  intro _ _ _ _ _
  apply Run.accounted_get.bind
  intro _ _ _ _ _
  apply (Run.accounted_note _).bind
  intro _ _ _ _ _
  split
  · exact Run.accounted_pure _
  · exact Run.accounted_throw id

/-- A run that fails has carried on from the evaluations that it had begun. It is refused only for
settings that are not valid, and then it has begun nothing. -/
theorem solve_error (hpermutes : source.Permutes journal.orders model.problem.nobj)
    (hfits : journal.counters.Fits model.problem.nobj) {failure : Failure R}
    (hrun : solve source model settings clock patience journal = .error failure after) :
    (∃ begun : Journal σ R, begun.visits = journal.visits
      ∧ begun.counters = journal.counters.begun (startsObjective source settings journal.orders)
          (startsGradient source model settings journal.orders)
      ∧ begun.Continues model.problem.nobj after)
    ∧ (failure.IsRefusal → validate settings = .error failure ∧ journal = after) := by
  rw [solve_eq_stages] at hrun
  obtain hprepare | ⟨regularizer, _, hprepare, hrest⟩ := Run.bind_eq_error.mp hrun
  · obtain ⟨rfl, hstarts, hrefused⟩ := prepare_error hprepare
    refine ⟨⟨journal, rfl, ?_, .refl _⟩, fun hrefusal => ⟨hrefused hrefusal, rfl⟩⟩
    rw [startsGradient, hstarts]
    rfl
  have hstarts := startsObjective_of_prepare hprepare
  obtain ⟨-, -, orders, hstart, rfl⟩ := prepare_eq_ok.mp hprepare
  rw [startsGradient_of_startsObjective hstarts, hstarts]
  obtain hevaluate | ⟨⟨objective, gradient⟩, _, hevaluate, hrest⟩ := Run.bind_eq_error.mp hrest
  · obtain ⟨rfl, hfailure⟩ := evaluateStart_error hevaluate
    refine ⟨⟨_, ?_, ?_, .refl _⟩, fun hrefusal => (hfailure hrefusal).elim⟩
    · rfl
    · rfl
  · obtain ⟨hobjective, -, rfl⟩ := evaluateStart_eq_ok.mp hevaluate
    have hready : Journal.Ready source journal.orders model.problem.nobj
        (prepared settings model orders journal) :=
      ⟨.start hstart, (hfits.tick .obj).tick .grad⟩
    have hplan := accounted_run ⟨model, settings, regularizer, clock⟩ hpermutes patience objective
      gradient
    obtain ⟨hcontinues, hfailure⟩ := hplan.error hready hrest
    refine ⟨⟨prepared settings model orders journal, rfl, ?_, hcontinues⟩,
      fun hrefusal => (hfailure hrefusal).elim⟩
    rw [hobjective]
    rfl

/-! ### All runs -/

theorem solve_counters (hpermutes : source.Permutes journal.orders model.problem.nobj)
    (hfits : journal.counters.Fits model.problem.nobj) {stats : Stats R}
    (hrun : solve source model settings clock patience journal = .ok stats after) :
    after.counters = ((journal.counters.tick .obj).tick .grad).afterPasses stats.iterations
      ∧ stats.counters = after.counters.toFields := by
  obtain ⟨regularizer, orders, objective, gradient, ⟨-, -, hstart, -, -⟩, hplan⟩ :=
    solve_eq_ok.mp hrun
  obtain ⟨stepSize, last, status, mid, -, hiterate, -, rfl, rfl⟩ := Plan.run_eq_ok.mp hplan
  have hready : Journal.Ready source journal.orders model.problem.nobj
      (prepared settings model orders journal) :=
    ⟨.start hstart, (hfits.tick .obj).tick .grad⟩
  obtain ⟨hreaches, -⟩ := Plan.Reaches.start.iterate_ok hiterate
  exact ⟨(hreaches.counters hpermutes hready rfl).2, rfl⟩

/-- What a run of the solver does to the counters of the model, however it ends. -/
structure Accounts (source : OrderSource σ) (model : Model R) (settings : Settings R)
    (clock : Nat → R) (patience : Nat) (journal : Journal σ R) : Prop where
  refuses : (∃ failure after, solve source model settings clock patience journal
      = .error failure after ∧ failure.IsRefusal) ↔ Unrecognized settings
  /-- A refused configuration counts nothing. -/
  refused : ∀ failure after, solve source model settings clock patience journal
      = .error failure after → failure.IsRefusal → after.counters = journal.counters
  /-- A run that returns counts every objective once in each iteration. -/
  returned : ∀ stats after, solve source model settings clock patience journal = .ok stats after →
      after.counters = { journal.counters with
          obj := journal.counters.obj + 1
          grad := journal.counters.grad + 1
          gradi := journal.counters.gradi.map (· + stats.iterations) }
        ∧ after.counters.total
          = journal.counters.total + (2 + stats.iterations * model.problem.nobj)
        ∧ stats.counters = after.counters.toFields
  /-- A run that fails counts what it has begun and the visits of its journal. -/
  failed : ∀ failure after, solve source model settings clock patience journal
      = .error failure after → ∃ added, after.visits = added ++ journal.visits
        ∧ (∀ visit ∈ added, visit.1 ∈ objectives model.problem.nobj)
        ∧ after.counters = { journal.counters with
            obj := journal.counters.obj
              + (startsObjective source settings journal.orders).toNat
            grad := journal.counters.grad
              + (startsGradient source model settings journal.orders).toNat
            gradi := journal.counters.gradi.mapIdx fun i count =>
              count + (added.map Prod.fst).count (i : Int) }
        ∧ after.counters.total = journal.counters.total
            + (startsObjective source settings journal.orders).toNat
            + (startsGradient source model settings journal.orders).toNat + added.length

/-- **Evaluations are accounted for**, in every run over permuted objectives. -/
theorem solve_accounts (hpermutes : source.Permutes journal.orders model.problem.nobj)
    (hfits : journal.counters.Fits model.problem.nobj) :
    Accounts source model settings clock patience journal where
  refuses := by
    constructor
    · rintro ⟨failure, after, hrun, hrefusal⟩
      obtain ⟨hinvalid, -⟩ := (solve_error hpermutes hfits hrun).2 hrefusal
      exact validate_refuses_iff.mp ⟨failure, hinvalid, hrefusal⟩
    · intro hunrecognized
      obtain ⟨failure, hinvalid, hrefusal⟩ := validate_refuses_iff.mpr hunrecognized
      refine ⟨failure, journal, Run.bind_eq_error.mpr (.inl ?_), hrefusal⟩
      exact Run.check_eq_error.mpr ⟨hinvalid, rfl⟩
  refused := by
    intro failure after hrun hrefusal
    obtain ⟨-, rfl⟩ := (solve_error hpermutes hfits hrun).2 hrefusal
    rfl
  returned := by
    intro stats after hrun
    obtain ⟨hcounters, hstats⟩ := solve_counters hpermutes hfits hrun
    refine ⟨hcounters, ?_, hstats⟩
    rw [hcounters, Counters.total_afterPasses ((hfits.tick .obj).tick .grad), Counters.total_tick,
      Counters.total_tick]
    omega
  failed := by
    intro failure after hrun
    obtain ⟨⟨begun, hvisits, hbegun, added, hadded, hmem, hcounters⟩, -⟩ :=
      solve_error hpermutes hfits hrun
    rw [hvisits] at hadded
    rw [hbegun] at hcounters
    refine ⟨added, hadded, hmem, hcounters, ?_⟩
    have hindices : ∀ index ∈ added.map Prod.fst, index ∈ objectives model.problem.nobj := by
      intro index hindex
      obtain ⟨visit, hvisit, rfl⟩ := List.mem_map.mp hindex
      exact hmem visit hvisit
    rw [hcounters, Counters.total_visited (hfits.begun _ _) hindices, Counters.total_begun,
      List.length_map]

/-- Two objectives that pull a single variable up and down. -/
def seesaw : Model Float where
  kind := "Linear"
  title := "seesaw"
  problem := Meta.ofDimensions 1 2 0
  value := fun _ _ => .ok 0.0
  gradient := fun index _ => .ok [if index = 0 then 1.0 else -1.0]

/-- The journal of a model with two objectives that was not evaluated before. -/
def unused : Journal (Orders Float) Float where
  counters := .empty 2
  orders := .listed [[1, 0], [0, 1]] 0
  visits := []
  notices := []

theorem permutes_unused : (Orders.source 2).Permutes unused.orders 2 :=
  Orders.permutes_listed (by decide)

/-- Settings under which a step of the size that falls below the tolerance is the third. -/
def falling : Settings Float :=
  { (Settings.initial : Settings Float) with alpha := .real 1.0, stepTol := .real 0.0009985 }

theorem solve_accounts_seesaw : ∃ stats after,
    solve (Orders.source 2) seesaw falling (fun _ => 0.0) 0 unused = .ok stats after
      ∧ stats.iterations = 3 ∧ after.counters.gradi = [3, 3] ∧ after.counters.total = 8 := by
  have haccounts : Accounts (Orders.source 2) seesaw falling (fun _ => 0.0) 0 unused :=
    solve_accounts permutes_unused (Counters.fits_empty 2)
  have hreturns : Run.read? Stats.iterations
      (solve (Orders.source 2) seesaw falling (fun _ => 0.0) 0) unused = some 3 := by decide +kernel
  obtain ⟨stats, after, hrun, hiterations⟩ := Run.exists_ok_of_read? hreturns
  obtain ⟨hcounters, htotal, -⟩ := haccounts.returned stats after hrun
  refine ⟨stats, after, hrun, hiterations, ?_, ?_⟩
  · rw [hcounters, hiterations]
    rfl
  · rw [htotal, hiterations]
    rfl

end Solver

end Multigrad
