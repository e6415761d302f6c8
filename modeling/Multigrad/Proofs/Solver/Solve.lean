import Multigrad.Proofs.Solver.Iteration

/-!
# Whole runs

A run refuses settings, evaluates the problem once at its initial point, iterates, and reports. What
it has at the end is what its iterations come to from where they start.
-/

namespace Multigrad

/-! ### Names -/

theorem find?_name_eq_some {α : Type} {all : List α} {name : α → String} {s : String} {a : α}
    (hall : ∀ b, b ∈ all) (hname : ∀ b, name b = name a → b = a) :
    all.find? (fun b => name b == s) = some a ↔ s = name a := by
  constructor
  · intro h
    have hfound := @List.find?_some _ (fun b => name b == s) _ _ h
    exact (beq_iff_eq.mp hfound).symm
  · rintro rfl
    cases h : all.find? (fun b => name b == name a) with
    | none => exact absurd (beq_self_eq_true (name a)) (List.find?_eq_none.mp h a (hall a))
    | some b =>
        have hfound := @List.find?_some _ (fun b => name b == name a) _ _ h
        rw [hname b (beq_iff_eq.mp hfound)]

theorem LearningRate.ofValue?_eq_some {R : Type} {value : Value R} {rate : LearningRate} :
    LearningRate.ofValue? value = some rate ↔ value = .text rate.name := by
  cases value with
  | text s =>
      rw [Value.text.injEq]
      exact find?_name_eq_some (fun b => by cases b <;> decide)
        (fun b => by cases b <;> cases rate <;> decide)
  | _ => simp [LearningRate.ofValue?]

theorem Penalty.ofValue?_eq_some {R : Type} {value : Value R} {penalty : Penalty} :
    Penalty.ofValue? value = some penalty ↔ value = .text penalty.name := by
  cases value with
  | text s =>
      rw [Value.text.injEq]
      exact find?_name_eq_some (fun b => by cases b <;> decide)
        (fun b => by cases b <;> cases penalty <;> decide)
  | _ => simp [Penalty.ofValue?]

namespace Solver

variable {σ R : Type} [Scalar R] {settings : Settings R}

/-! ### Refusals -/

/-- The failures that tell a user about a configuration that no run can use. -/
def Failure.IsRefusal : Failure R → Prop
  | .learningRate _ => True
  | .penalty _ => True
  | .regularization => True
  | .evaluation _ => False
  | .mishap _ => False
  | .negativeTime => False
  | .unfinished => False

/-- A learning rate or a penalty that does not exist, or an optimal learning rate without a positive
regularization. -/
def Unrecognized (settings : Settings R) : Prop :=
  (∀ rate : LearningRate, settings.learningRate ≠ .text rate.name)
    ∨ (∀ penalty : Penalty, settings.penalty ≠ .text penalty.name)
    ∨ settings.learningRate = .text LearningRate.optimal.name
      ∧ ∃ alpha, settings.alpha.number? = .ok alpha ∧ alpha.atMostZero = true

theorem validate_refuses_iff :
    (∃ failure : Failure R, validate settings = .error failure ∧ failure.IsRefusal)
      ↔ Unrecognized settings := by
  simp only [Unrecognized, ne_eq, ← LearningRate.ofValue?_eq_some, ← Penalty.ofValue?_eq_some,
    ← Option.eq_none_iff_forall_ne_some]
  unfold validate
  cases LearningRate.ofValue? settings.learningRate with
  | none => simp [Failure.IsRefusal]
  | some rate =>
      cases Penalty.ofValue? settings.penalty with
      | none => simp [Failure.IsRefusal]
      | some penalty =>
          cases rate with
          | optimal =>
              cases settings.alpha.number? with
              | error mishap => simp [Failure.IsRefusal]
              | ok alpha =>
                  cases halpha : alpha.atMostZero <;> simp [halpha, Failure.IsRefusal]
          | invscaling => simp
          | constant => simp

/-! ### Stages -/

variable [Completion R] {source : OrderSource σ} {model : Model R} {clock : Nat → R}
  {patience : Nat} {journal after : Journal σ R} {stats : Stats R}

/-- What a run does before it evaluates anything. -/
def prepare (source : OrderSource σ) (model : Model R) (settings : Settings R) :
    Run σ R (Regularizer R) := do
  Run.check (validate settings)
  let regularizer ← Run.lift settings.regularizer
  Run.start source
  Run.note (.starting settings model.problem.name)
  return regularizer

/-- The evaluations at the initial point. -/
def evaluateStart (model : Model R) : Run σ R (R × List R) := do
  let x0 := Grid.ofList model.problem.x0
  let objective ← Run.evaluate (model.obj (.ok x0))
  let gradient ← Run.evaluate (model.grad (.ok x0))
  return (objective, gradient)

/-- The iterations and the report. -/
def Plan.run (plan : Plan R) (source : OrderSource σ) (patience : Nat) (objective : R)
    (gradient : List R) : Run σ R (Stats R) := do
  let stepSize ← Run.lift plan.settings.stepSize.number?
  let limit := plan.settings.horizon?.getD patience
  let (last, status) ← plan.iterate source limit (initialIterate plan.model stepSize)
  let elapsed := plan.clock last.iterations
  let counters := (← get).counters
  Run.note (.finished plan.settings.name last.iterations status elapsed counters.total)
  if Scalar.atMost 0.0 elapsed then
    return report plan.settings last status objective (norm gradient) elapsed counters
  else throw .negativeTime

theorem solve_eq_stages :
    solve source model settings clock patience = (do
      let regularizer ← prepare source model settings
      let (objective, gradient) ← evaluateStart model
      Plan.run ⟨model, settings, regularizer, clock⟩ source patience objective gradient) := by
  unfold solve prepare evaluateStart Plan.run
  simp only [bind_assoc, pure_bind]

theorem prepare_eq_ok {regularizer : Regularizer R} :
    prepare source model settings journal = .ok regularizer after ↔
      validate settings = .ok () ∧ settings.regularizer = .ok regularizer
        ∧ ∃ orders, source.start journal.orders = .ok orders
          ∧ after = Journal.noted { journal with orders }
              (.starting settings model.problem.name) := by
  simp only [prepare, Run.bind_eq_ok, Run.check_eq_ok, Run.lift_eq_ok, Run.start_eq_ok,
    Run.note_eq_ok, Run.pure_eq_ok]
  constructor
  · rintro ⟨_, _, ⟨hvalid, rfl⟩, _, _, ⟨hregularizer, rfl⟩, _, _, ⟨orders, hstart, rfl⟩, _, _, rfl,
      rfl, rfl⟩
    exact ⟨hvalid, hregularizer, orders, hstart, rfl⟩
  · rintro ⟨hvalid, hregularizer, orders, hstart, rfl⟩
    exact ⟨(), _, ⟨hvalid, rfl⟩, _, _, ⟨hregularizer, rfl⟩, (), _, ⟨orders, hstart, rfl⟩, (), _,
      rfl, rfl, rfl⟩

omit [Completion R] in
theorem evaluateStart_eq_ok {objective : R} {gradient : List R} :
    evaluateStart model journal = .ok (objective, gradient) after ↔
      model.total (Grid.ofList model.problem.x0) = .ok objective
        ∧ model.totalGradient (Grid.ofList model.problem.x0) = .ok gradient
        ∧ after = { journal with counters := (journal.counters.tick .obj).tick .grad } := by
  simp only [evaluateStart, Run.bind_eq_ok, Run.evaluate_eq_ok, Run.pure_eq_ok, Model.obj,
    Model.grad, Model.evaluate, mapError_eq_ok, Prod.mk.injEq]
  constructor
  · rintro ⟨_, _, ⟨hobjective, rfl⟩, _, _, ⟨hgradient, rfl⟩, ⟨rfl, rfl⟩, rfl⟩
    exact ⟨hobjective, hgradient, rfl⟩
  · rintro ⟨hobjective, hgradient, rfl⟩
    exact ⟨_, _, ⟨hobjective, rfl⟩, _, _, ⟨hgradient, rfl⟩, ⟨rfl, rfl⟩, rfl⟩

theorem Plan.run_eq_ok {plan : Plan R} {objective : R} {gradient : List R} :
    plan.run source patience objective gradient journal = .ok stats after ↔
      ∃ stepSize last status mid, plan.settings.stepSize.number? = .ok stepSize
        ∧ plan.iterate source (plan.settings.horizon?.getD patience)
            (initialIterate plan.model stepSize) journal = .ok (last, status) mid
        ∧ Scalar.atMost 0.0 (plan.clock last.iterations) = true
        ∧ stats = report plan.settings last status objective (norm gradient)
            (plan.clock last.iterations) mid.counters
        ∧ after = mid.noted (.finished plan.settings.name last.iterations status
            (plan.clock last.iterations) mid.counters.total) := by
  simp only [Plan.run, Run.bind_eq_ok, Run.lift_eq_ok, Run.note_eq_ok, Run.get_eq_ok]
  constructor
  · rintro ⟨stepSize, _, ⟨hstep, rfl⟩, ⟨last, status⟩, mid, hiterate, _, _, ⟨rfl, rfl⟩, _, _, rfl,
      hfinish⟩
    split at hfinish
    · rename_i htime
      obtain ⟨rfl, rfl⟩ := Run.pure_eq_ok.mp hfinish
      exact ⟨stepSize, last, status, mid, hstep, hiterate, htime, rfl, rfl⟩
    · exact (Run.throw_ne_ok hfinish).elim
  · rintro ⟨stepSize, last, status, mid, hstep, hiterate, htime, rfl, rfl⟩
    refine ⟨stepSize, _, ⟨hstep, rfl⟩, (last, status), mid, hiterate, mid, mid, ⟨rfl, rfl⟩, (), _,
      rfl, ?_⟩
    rw [if_pos htime]
    rfl

/-! ### Runs that return -/

/-- The journal before the first test: both evaluations of the problem are counted. -/
def prepared (settings : Settings R) (model : Model R) (orders : σ) (journal : Journal σ R) :
    Journal σ R where
  counters := (journal.counters.tick .obj).tick .grad
  orders := orders
  visits := journal.visits
  notices := .starting settings model.problem.name :: journal.notices

/-- A run that returns has iterated from the prepared journal. -/
theorem solve_eq_ok :
    solve source model settings clock patience journal = .ok stats after ↔
      ∃ regularizer orders objective gradient,
        (validate settings = .ok () ∧ settings.regularizer = .ok regularizer
          ∧ source.start journal.orders = .ok orders
          ∧ model.total (Grid.ofList model.problem.x0) = .ok objective
          ∧ model.totalGradient (Grid.ofList model.problem.x0) = .ok gradient)
        ∧ Plan.run ⟨model, settings, regularizer, clock⟩ source patience objective gradient
            (prepared settings model orders journal) = .ok stats after := by
  rw [solve_eq_stages, Run.bind_eq_ok]
  constructor
  · rintro ⟨regularizer, _, hprepare, hrest⟩
    obtain ⟨hvalid, hregularizer, orders, hstart, rfl⟩ := prepare_eq_ok.mp hprepare
    obtain ⟨⟨objective, gradient⟩, _, hevaluate, hrun⟩ := Run.bind_eq_ok.mp hrest
    obtain ⟨hobjective, hgradient, rfl⟩ := evaluateStart_eq_ok.mp hevaluate
    exact ⟨regularizer, orders, objective, gradient,
      ⟨hvalid, hregularizer, hstart, hobjective, hgradient⟩, hrun⟩
  · rintro ⟨regularizer, orders, objective, gradient,
      ⟨hvalid, hregularizer, hstart, hobjective, hgradient⟩, hrun⟩
    refine ⟨regularizer, _, prepare_eq_ok.mpr ⟨hvalid, hregularizer, orders, hstart, rfl⟩, ?_⟩
    refine Run.bind_eq_ok.mpr ⟨(objective, gradient), _, ?_, hrun⟩
    exact evaluateStart_eq_ok.mpr ⟨hobjective, hgradient, rfl⟩

end Solver

end Multigrad
