import Multigrad.Proofs.Solver.Solve

/-!
# Two runs in parallel

Runs with penalties that pull alike do the same, part by part: the same results or the same
failures, and the same counters, orders and visits. They only differ in what they tell about
themselves, in the notices of a journal and in the statistics.
-/

namespace Multigrad

/-- The same settings with another penalty. -/
def Settings.withPenalty {R : Type} (settings : Settings R) (penalty : Penalty) : Settings R :=
  { settings with penalty := .text penalty.name }

/-- Statistics that agree on everything but the name of the penalty. -/
structure Stats.SameButPenalty {R : Type} (stats stats' : Stats R) : Prop where
  status : stats.status = stats'.status
  solution : stats.solution = stats'.solution
  averagedSolution : stats.averagedSolution = stats'.averagedSolution
  objective : stats.objective = stats'.objective
  gradientNorm : stats.gradientNorm = stats'.gradientNorm
  elapsedTime : stats.elapsedTime = stats'.elapsedTime
  iterations : stats.iterations = stats'.iterations
  counters : stats.counters = stats'.counters
  specific : ∀ key ≠ "penalty", stats.solverSpecific.get? key = stats'.solverSpecific.get? key

namespace Solver

variable {σ R α β γ δ : Type}

/-- Journals that agree on everything but the notices. -/
structure Journal.Agree (journal journal' : Journal σ R) : Prop where
  counters : journal.counters = journal'.counters
  orders : journal.orders = journal'.orders
  visits : journal.visits = journal'.visits

/-- Two endings: with results that are related, or with one and the same failure. -/
inductive Alongside (related : α → β → Prop) : EStateM.Result (Failure R) (Journal σ R) α →
    EStateM.Result (Failure R) (Journal σ R) β → Prop where
  | ok {a : α} {b : β} {after after' : Journal σ R} (hrelated : related a b)
      (hagree : after.Agree after') : Alongside related (.ok a after) (.ok b after')
  | error {failure : Failure R} {after after' : Journal σ R} (hagree : after.Agree after') :
      Alongside related (.error failure after) (.error failure after')

/-- Parts that end alike whenever they start with journals that agree. -/
def Run.Parallel (related : α → β → Prop) (part : Run σ R α) (part' : Run σ R β) : Prop :=
  ∀ journal journal', journal.Agree journal' → Alongside related (part journal) (part' journal')

namespace Run

variable {related : α → β → Prop} {follows : γ → δ → Prop}

theorem Parallel.bind {part : Run σ R α} {part' : Run σ R β} {next : α → Run σ R γ}
    {next' : β → Run σ R δ} (hpart : Parallel related part part')
    (hnext : ∀ a b, related a b → Parallel follows (next a) (next' b)) :
    Parallel follows (part >>= next) (part' >>= next') := by
  intro journal journal' hagree
  change Alongside follows (EStateM.bind part next journal) (EStateM.bind part' next' journal')
  unfold EStateM.bind
  have hends := hpart journal journal' hagree
  generalize part journal = ending, part' journal' = ending' at hends ⊢
  cases hends with
  | ok hrelated hafter => exact hnext _ _ hrelated _ _ hafter
  | error hafter => exact .error hafter

/-- Parts with equal results go on with one and the same. -/
theorem Parallel.andThen {part part' : Run σ R α} {next : α → Run σ R γ} {next' : α → Run σ R δ}
    (hpart : Parallel Eq part part') (hnext : ∀ a, Parallel follows (next a) (next' a)) :
    Parallel follows (part >>= next) (part' >>= next') :=
  hpart.bind fun a _ heq => heq ▸ hnext a

/-- Where one of two parallel parts has a result, so does the other one. -/
theorem Parallel.exists_ok {part : Run σ R α} {part' : Run σ R β}
    (hparallel : Parallel related part part') {journal journal' after' : Journal σ R} {b : β}
    (hagree : journal.Agree journal') (hpart' : part' journal' = .ok b after') :
    ∃ a after, part journal = .ok a after ∧ related a b ∧ after.Agree after' := by
  have hends := hparallel journal journal' hagree
  rw [hpart'] at hends
  generalize part journal = ending at hends
  cases hends with
  | ok hrelated hafter => exact ⟨_, _, rfl, hrelated, hafter⟩

theorem parallel_pure {a : α} {b : β} (hrelated : related a b) :
    Parallel related (pure a : Run σ R α) (pure b) :=
  fun _ _ hagree => .ok hrelated hagree

theorem parallel_throw (failure : Failure R) :
    Parallel related (throw failure : Run σ R α) (throw failure) :=
  fun _ _ hagree => .error hagree

theorem parallel_ite {condition : Prop} [Decidable condition] {part other : Run σ R α}
    {part' other' : Run σ R β} (hpart : Parallel related part part')
    (hother : Parallel related other other') :
    Parallel related (if condition then part else other)
      (if condition then part' else other') := by
  split
  · exact hpart
  · exact hother

theorem parallel_lift (reading : Except Mishap α) :
    Parallel Eq (lift reading : Run σ R α) (lift reading) := by
  cases reading with
  | ok a => exact parallel_pure rfl
  | error mishap => exact parallel_throw _

theorem parallel_check (verdict : Except (Failure R) α) :
    Parallel Eq (check verdict : Run σ R α) (check verdict) := by
  cases verdict with
  | ok a => exact parallel_pure rfl
  | error failure => exact parallel_throw failure

theorem parallel_evaluate (evaluation : Counters → Except Model.Failure α × Counters) :
    Parallel Eq (evaluate evaluation : Run σ R α) (evaluate evaluation) := by
  intro journal journal' hagree
  rw [evaluate, evaluate, hagree.counters]
  obtain ⟨result, counters⟩ := evaluation journal'.counters
  cases result with
  | ok a => exact .ok rfl ⟨rfl, hagree.orders, hagree.visits⟩
  | error failure => exact .error ⟨rfl, hagree.orders, hagree.visits⟩

theorem parallel_start (source : OrderSource σ) :
    Parallel Eq (start source : Run σ R Unit) (start source) := by
  intro journal journal' hagree
  rw [start, start, hagree.orders]
  cases source.start journal'.orders with
  | ok orders => exact .ok rfl ⟨hagree.counters, rfl, hagree.visits⟩
  | error mishap => exact .error hagree

theorem parallel_draw (source : OrderSource σ) :
    Parallel Eq (draw source : Run σ R (List Int)) (draw source) := by
  intro journal journal' hagree
  rw [draw, draw, hagree.orders]
  cases source.next journal'.orders with
  | ok drawn => exact .ok rfl ⟨hagree.counters, rfl, hagree.visits⟩
  | error mishap => exact .error hagree

/-- Notices may differ. -/
theorem parallel_note (notice notice' : Notice R) :
    Parallel Eq (note notice : Run σ R Unit) (note notice') :=
  fun _ _ hagree => .ok rfl ⟨hagree.counters, hagree.orders, hagree.visits⟩

theorem parallel_noteVisit (index : Int) (point : List R) :
    Parallel Eq (noteVisit index point : Run σ R Unit) (noteVisit index point) :=
  fun _ _ hagree => .ok rfl
    ⟨hagree.counters, hagree.orders, congrArg ((index, point) :: ·) hagree.visits⟩

theorem parallel_get : Parallel Journal.Agree (get : Run σ R (Journal σ R)) get :=
  fun _ _ hagree => .ok hagree hagree

theorem parallel_evaluations : Parallel Eq (evaluations : Run σ R Nat) evaluations :=
  parallel_get.bind fun _ _ hagree => parallel_pure (congrArg Counters.total hagree.counters)

end Run

/-! ### Penalties that pull alike -/

section Penalties

variable [Scalar R] {plan : Plan R} (penalty : Penalty) {regularizer : Regularizer R}

/-- The same plan with another penalty. -/
def Plan.withPenalty (plan : Plan R) (penalty : Penalty) (regularizer : Regularizer R) : Plan R :=
  { plan with settings := plan.settings.withPenalty penalty, regularizer }

omit [Scalar R] in
theorem parallel_visit (model : Model R) (index : Int) (point : List R) :
    Run.Parallel Eq (visit model index point : Run σ R (List R)) (visit model index point) :=
  (Run.parallel_noteVisit index point).andThen fun _ => Run.parallel_evaluate _

variable (hpull : ∀ entry, plan.regularizer.pull entry = regularizer.pull entry)

include hpull

theorem Plan.parallel_step (stepSize : Number R) (point : List R) (index : Int) :
    Run.Parallel Eq (plan.step stepSize point index : Run σ R (List R))
      ((plan.withPenalty penalty regularizer).step stepSize point index) := by
  have hdirection : plan.regularizer.direction point = regularizer.direction point :=
    List.map_congr_left fun entry _ => hpull entry
  have hsame : pull plan.settings plan.regularizer point =
      pull (plan.settings.withPenalty penalty) regularizer point := by
    rw [pull, pull, hdirection]
    rfl
  unfold step
  rw [hsame]
  exact (Run.parallel_lift _).andThen fun _ => (parallel_visit _ index point).andThen fun _ =>
    Run.parallel_lift _

theorem Plan.parallel_sweep (stepSize : Number R) (order : List Int) (point sum : List R) :
    Run.Parallel Eq (plan.sweep stepSize order point sum : Run σ R (List R × List R))
      ((plan.withPenalty penalty regularizer).sweep stepSize order point sum) := by
  induction order generalizing point sum with
  | nil => exact Run.parallel_pure rfl
  | cons index rest ih =>
    exact (plan.parallel_step penalty hpull stepSize point index).andThen fun next =>
      (Run.parallel_lift _).andThen fun total => ih next total

variable [Completion R] (source : OrderSource σ)

theorem Plan.parallel_advance (current : Iterate R) :
    Run.Parallel Eq (plan.advance source current)
      ((plan.withPenalty penalty regularizer).advance source current) := by
  apply (Run.parallel_lift _).andThen
  intro stepSize
  apply (Run.parallel_draw source).andThen
  intro order
  apply (plan.parallel_sweep penalty hpull stepSize order _ _).andThen
  intro swept
  exact (Run.parallel_note _ _).andThen fun _ => Run.parallel_pure rfl

omit [Completion R] hpull in
theorem Plan.parallel_stop? (current : Iterate R) :
    Run.Parallel Eq (plan.stop? current : Run σ R (Option Status))
      ((plan.withPenalty penalty regularizer).stop? current) :=
  Run.parallel_evaluations.andThen fun _ => Run.parallel_lift _

theorem Plan.parallel_iterate (limit : Nat) (current : Iterate R) :
    Run.Parallel Eq (plan.iterate source limit current)
      ((plan.withPenalty penalty regularizer).iterate source limit current) := by
  induction limit generalizing current with
  | zero =>
    apply (plan.parallel_stop? penalty current).andThen
    intro verdict
    cases verdict with
    | some status => exact Run.parallel_pure rfl
    | none => exact Run.parallel_throw _
  | succ limit ih =>
    apply (plan.parallel_stop? penalty current).andThen
    intro verdict
    cases verdict with
    | some status => exact Run.parallel_pure rfl
    | none => exact (plan.parallel_advance penalty hpull source current).andThen ih

/-- Reports name the penalty, and differ in nothing else. -/
theorem Plan.parallel_run (patience : Nat) (objective : R) (gradient : List R) :
    Run.Parallel Stats.SameButPenalty (plan.run source patience objective gradient)
      ((plan.withPenalty penalty regularizer).run source patience objective gradient) := by
  apply (Run.parallel_lift _).andThen
  intro stepSize
  apply (plan.parallel_iterate penalty hpull source _ _).andThen
  intro ended
  apply Run.parallel_get.bind
  intro journal journal' hagree
  apply (Run.parallel_note _ _).andThen
  intro _
  refine Run.parallel_ite (Run.parallel_pure ⟨rfl, rfl, rfl, rfl, rfl, rfl, rfl, ?_, ?_⟩)
    (Run.parallel_throw _)
  · exact congrArg Counters.toFields hagree.counters
  · intro key hkey
    simp only [report, Fields.get?, List.lookup_cons, beq_false_of_ne hkey]
    rfl

/-! ### Whole runs -/

omit hpull [Completion R] in
theorem parallel_evaluateStart (model : Model R) :
    Run.Parallel Eq (evaluateStart model : Run σ R (R × List R)) (evaluateStart model) :=
  (Run.parallel_evaluate _).andThen fun _ => (Run.parallel_evaluate _).andThen fun _ =>
    Run.parallel_pure rfl

end Penalties

section Whole

variable [Scalar R] [Completion R] {settings : Settings R} {penalty penalty' : Penalty}
  {regularizer regularizer' : Regularizer R} (source : OrderSource σ) (model : Model R)

omit [Completion R] in
/-- No penalty that exists is refused. -/
theorem validate_withPenalty :
    validate (settings.withPenalty penalty) = validate (settings.withPenalty penalty') := by
  have hknown (penalty : Penalty) :
      Penalty.ofValue? (settings.withPenalty penalty).penalty = some penalty :=
    Penalty.ofValue?_eq_some.mpr rfl
  have hrate (penalty : Penalty) :
      (settings.withPenalty penalty).learningRate = settings.learningRate := rfl
  unfold validate
  rw [hknown, hknown, hrate, hrate]
  cases LearningRate.ofValue? settings.learningRate with
  | none => rfl
  | some rate => cases rate <;> rfl

theorem parallel_prepare
    (hregularizer : (settings.withPenalty penalty).regularizer = .ok regularizer)
    (hregularizer' : (settings.withPenalty penalty').regularizer = .ok regularizer') :
    Run.Parallel (fun found found' => found = regularizer ∧ found' = regularizer')
      (prepare source model (settings.withPenalty penalty))
      (prepare source model (settings.withPenalty penalty')) := by
  unfold prepare
  rw [hregularizer, hregularizer', @validate_withPenalty _ _ settings penalty penalty']
  apply (Run.parallel_check _).andThen
  intro _
  change Run.Parallel _ (Run.start source >>= _) (Run.start source >>= _)
  apply (Run.parallel_start source).andThen
  intro _
  exact (Run.parallel_note _ _).andThen fun _ => Run.parallel_pure ⟨rfl, rfl⟩

/-- Runs with penalties that pull alike are parallel. -/
theorem parallel_solve
    (hregularizer : (settings.withPenalty penalty).regularizer = .ok regularizer)
    (hregularizer' : (settings.withPenalty penalty').regularizer = .ok regularizer')
    (hpull : ∀ entry, regularizer.pull entry = regularizer'.pull entry) (clock : Nat → R)
    (patience : Nat) :
    Run.Parallel Stats.SameButPenalty
      (solve source model (settings.withPenalty penalty) clock patience)
      (solve source model (settings.withPenalty penalty') clock patience) := by
  rw [solve_eq_stages, solve_eq_stages]
  apply (parallel_prepare source model hregularizer hregularizer').bind
  rintro first second ⟨hfirst, hsecond⟩
  rw [hfirst, hsecond]
  apply (parallel_evaluateStart model).andThen
  intro start
  let plan : Plan R := ⟨model, settings.withPenalty penalty, regularizer, clock⟩
  exact plan.parallel_run penalty' hpull source patience start.1 start.2

end Whole

end Solver

end Multigrad
