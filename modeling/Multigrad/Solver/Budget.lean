import Multigrad.Solver.Settings
import Multigrad.Stats.Basic

/-!
# Budgets

When a run has to stop: after too much time, too many evaluations or too many iterations, or because
its steps have become too small.
-/

namespace Multigrad.Settings

variable {R : Type} [Scalar R]

/-- Whether a limit on evaluations is set and exceeded. -/
def exceedsEvaluations (settings : Settings R) (count : Nat) : Except Mishap Bool := do
  let limit ← settings.maxEval.number?
  return Number.less (.int 0) limit && Number.less limit (.int count)

/-- The first exhausted budget in the order time, evaluations, iterations. -/
def exhausted? (settings : Settings R) (elapsed : R) (count : Nat) (iteration : Int) :
    Except Mishap (Option Status) := do
  let maxTime ← settings.maxTime.number?
  if Number.less maxTime (.real elapsed) then return some .maxTime
  else if ← settings.exceedsEvaluations count then return some .maxEval
  else
    let maxIter ← settings.maxIter.number?
    if Number.less maxIter (.int iteration) then return some .maxIter
    else return none

def converged (settings : Settings R) (step : Number R) : Except Mishap Bool := do
  let tolerance ← settings.stepTol.number?
  return Number.less step tolerance

/-- Why to stop, if at all; a small step comes before any budget. -/
def stop? (settings : Settings R) (elapsed : R) (count : Nat) (iteration : Nat) (step : Number R) :
    Except Mishap (Option Status) := do
  let exhausted ← settings.exhausted? elapsed count iteration
  let converged ← settings.converged step
  return if converged then some .smallStep else exhausted

/-- A number of iterations after which a limit on iterations, or else one on evaluations, is
exceeded. -/
def horizon? (settings : Settings R) : Option Nat :=
  match settings.maxIter.number?.toOption.bind Number.floor? with
  | some limit => some (limit + 1).toNat
  | none =>
    match settings.maxEval.number?.toOption with
    | some limit =>
      if Number.less (.int 0) limit then limit.floor?.map fun n => (n + 1).toNat else none
    | none => none

end Multigrad.Settings
