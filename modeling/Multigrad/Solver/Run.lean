import Multigrad.Model.Basic
import Multigrad.Solver.Budget
import Multigrad.Solver.Orders
import Multigrad.Solver.Penalty
import Multigrad.Solver.Schedule
import Multigrad.Stats.Basic

/-!
# Stochastic gradient runs

Every iteration visits all objectives in some order and takes a step along the gradient of each
visited one, regularized. Budgets are checked before the first and after every iteration. A run
keeps a journal, also of what happened before a failure.
-/

namespace Multigrad.Solver

inductive Failure (R : Type) where
  | learningRate (value : Value R)
  | penalty (value : Value R)
  /-- An optimal learning rate without a positive regularization. -/
  | regularization
  | evaluation (failure : Model.Failure)
  | mishap (mishap : Mishap)
  | negativeTime
  /-- Nothing limits the run, and the patience has run out. -/
  | unfinished

/-- What a run reports while it is going on. -/
inductive Notice (R : Type) where
  | starting (settings : Settings R) (problem : String)
  | iteration (number : Nat) (stepSize : Number R) (norm : R)
  | finished (solver : Value R) (iterations : Nat) (status : Status) (elapsed : R)
      (evaluations : Nat)

structure Journal (σ R : Type) where
  counters : Counters
  orders : σ
  /-- The visited objectives and the points they were visited at, the last one first. -/
  visits : List (Int × List R)
  /-- The last one first. -/
  notices : List (Notice R)

/-- A part of a run: a result or a failure, and in both cases the journal. -/
abbrev Run (σ R α : Type) := EStateM (Failure R) (Journal σ R) α

variable {σ R α : Type}

namespace Run

def lift : Except Mishap α → Run σ R α
  | .ok a => pure a
  | .error mishap => throw (.mishap mishap)

def check : Except (Failure R) α → Run σ R α
  | .ok a => pure a
  | .error failure => throw failure

/-- Evaluates a model, which counts. -/
def evaluate (evaluation : Counters → Except Model.Failure α × Counters) : Run σ R α :=
  fun journal =>
    match evaluation journal.counters with
    | (.ok a, counters) => .ok a { journal with counters }
    | (.error failure, counters) => .error (.evaluation failure) { journal with counters }

def start (source : OrderSource σ) : Run σ R Unit := fun journal =>
  match source.start journal.orders with
  | .ok orders => .ok () { journal with orders }
  | .error mishap => .error (.mishap mishap) journal

def draw (source : OrderSource σ) : Run σ R (List Int) := fun journal =>
  match source.next journal.orders with
  | .ok (order, orders) => .ok order { journal with orders }
  | .error mishap => .error (.mishap mishap) journal

def note (notice : Notice R) : Run σ R Unit :=
  modify fun journal => { journal with notices := notice :: journal.notices }

def noteVisit (index : Int) (point : List R) : Run σ R Unit :=
  modify fun journal => { journal with visits := (index, point) :: journal.visits }

/-- The number of evaluations that the model has counted. -/
def evaluations : Run σ R Nat := return (← get).counters.total

end Run

variable [Scalar R]

/-! ### One step -/

/-- Combines two vectors entry by entry; a single entry goes with every entry of the other one. -/
def combine (f : R → R → R) (a b : List R) : Except Mishap (List R) :=
  if a.length = b.length then .ok (List.zipWith f a b)
  else
    match a, b with
    | [entry], b => .ok (b.map (f entry))
    | a, [entry] => .ok (a.map (f · entry))
    | _, _ => .error .malformed

def norm [Completion R] (vector : List R) : R :=
  Completion.sqrt (vector.foldl (fun sum entry => sum + entry * entry) 0.0)

def pull (settings : Settings R) (regularizer : Regularizer R) (point : List R) :
    Except Mishap (List R) := do
  let alpha ← settings.alpha.real?
  return (regularizer.direction point).map (alpha * ·)

/-- Moves a point by a step against the pull and the gradient, taken in a direction. -/
def move (step : Number R) (direction : R) (point pull gradient : List R) :
    Except Mishap (List R) := do
  let slope ← combine (· + ·) pull (gradient.map (direction * ·))
  let step ← step.toReal
  combine (· - ·) point (slope.map (step * ·))

/-- The direction of descent: along the gradient for a maximum. -/
def direction (problem : Meta R) : R := if problem.minimize then 1.0 else -1.0

def visit (model : Model R) (index : Int) (point : List R) : Run σ R (List R) := do
  Run.noteVisit index point
  Run.evaluate (model.gradI index (.ok (Grid.ofList point)))

/-- What stays the same during a run. -/
structure Plan (R : Type) where
  model : Model R
  settings : Settings R
  regularizer : Regularizer R
  /-- The reading of the clock after so many iterations. -/
  clock : Nat → R

namespace Plan

def step (plan : Plan R) (stepSize : Number R) (point : List R) (index : Int) :
    Run σ R (List R) := do
  let pull ← Run.lift (pull plan.settings plan.regularizer point)
  let gradient ← visit plan.model index point
  Run.lift (move stepSize (direction plan.model.problem) point pull gradient)

/-- Visits objectives in order; adds up all points that it comes to. -/
def sweep (plan : Plan R) (stepSize : Number R) :
    List Int → (point sum : List R) → Run σ R (List R × List R)
  | [], point, sum => return (point, sum)
  | index :: rest, point, sum => do
    let point ← plan.step stepSize point index
    let sum ← Run.lift (Model.addOnto sum point)
    plan.sweep stepSize rest point sum

end Plan

/-! ### All iterations -/

/-- Where a run stands after so many iterations. -/
structure Iterate (R : Type) where
  iterations : Nat
  stepSize : Number R
  point : List R
  average : List R

namespace Plan

variable [Completion R]

def advance (plan : Plan R) (source : OrderSource σ) (iterate : Iterate R) :
    Run σ R (Iterate R) := do
  let stepSize ← Run.lift (plan.settings.nextStep iterate.iterations iterate.stepSize)
  let order ← Run.draw source
  let start := iterate.average.map fun _ => (0.0 : R)
  let (point, sum) ← plan.sweep stepSize order iterate.point start
  let average := sum.map (· / Scalar.ofInt plan.model.problem.nobj)
  Run.note (.iteration (iterate.iterations + 1) stepSize (norm point))
  return ⟨iterate.iterations + 1, stepSize, point, average⟩

def stop? (plan : Plan R) (iterate : Iterate R) : Run σ R (Option Status) := do
  let evaluations ← Run.evaluations
  Run.lift (plan.settings.stop? (plan.clock iterate.iterations) evaluations iterate.iterations
    iterate.stepSize)

/-- Iterates until there is a reason to stop, at most so many times. -/
def iterate (plan : Plan R) (source : OrderSource σ) :
    (limit : Nat) → Iterate R → Run σ R (Iterate R × Status)
  | 0, iterate => do
    match ← plan.stop? iterate with
    | some status => return (iterate, status)
    | none => throw .unfinished
  | limit + 1, current => do
    match ← plan.stop? current with
    | some status => return (current, status)
    | none =>
      let next ← plan.advance source current
      plan.iterate source limit next

end Plan

/-- Refuses settings that no run can use. -/
def validate (settings : Settings R) : Except (Failure R) Unit :=
  match LearningRate.ofValue? settings.learningRate, Penalty.ofValue? settings.penalty with
  | none, _ => .error (.learningRate settings.learningRate)
  | some _, none => .error (.penalty settings.penalty)
  | some .optimal, some _ =>
    match settings.alpha.number? with
    | .ok alpha => if alpha.atMostZero then .error .regularization else .ok ()
    | .error mishap => .error (.mishap mishap)
  | some _, some _ => .ok ()

def report (settings : Settings R) (iterate : Iterate R) (status : Status)
    (objective gradientNorm elapsed : R) (counters : Counters) : Stats R where
  status := status
  solution := iterate.point
  averagedSolution := iterate.average
  objective := objective
  gradientNorm := gradientNorm
  elapsedTime := elapsed
  iterations := iterate.iterations
  counters := counters.toFields
  solverSpecific :=
    [("learning_rate", settings.learningRate),
     ("penalty", settings.penalty),
     ("final_step_size", Value.ofNumber iterate.stepSize)]

variable [Completion R]

def initialIterate (model : Model R) (stepSize : Number R) : Iterate R :=
  ⟨0, stepSize, model.problem.x0, model.problem.x0⟩

/-- Runs the solver on a model. If neither iterations nor evaluations are limited, the run fails
when `patience` iterations were not enough. -/
def solve (source : OrderSource σ) (model : Model R) (settings : Settings R) (clock : Nat → R)
    (patience : Nat) : Run σ R (Stats R) := do
  Run.check (validate settings)
  let regularizer ← Run.lift settings.regularizer
  Run.start source
  Run.note (.starting settings model.problem.name)
  let x0 := Grid.ofList model.problem.x0
  let objective ← Run.evaluate (model.obj (.ok x0))
  let gradient ← Run.evaluate (model.grad (.ok x0))
  let stepSize ← Run.lift settings.stepSize.number?
  let plan : Plan R := ⟨model, settings, regularizer, clock⟩
  let limit := settings.horizon?.getD patience
  let (last, status) ← plan.iterate source limit (initialIterate model stepSize)
  let elapsed := clock last.iterations
  let counters := (← get).counters
  Run.note (.finished settings.name last.iterations status elapsed counters.total)
  if Scalar.atMost 0.0 elapsed then
    return report settings last status objective (norm gradient) elapsed counters
  else throw .negativeTime

end Multigrad.Solver
