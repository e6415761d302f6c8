import Multigrad.Value.Basic

/-!
# Run statistics

What a solver reports of a run.
-/

namespace Multigrad

inductive Status where
  | smallStep
  | maxTime
  | maxEval
  | maxIter
  | unknown
deriving DecidableEq, Repr

namespace Status

def all : List Status := [smallStep, maxTime, maxEval, maxIter, unknown]

def name : Status → String
  | smallStep => "small_step"
  | maxTime => "max_time"
  | maxEval => "max_eval"
  | maxIter => "max_iter"
  | unknown => "unknown"

def message : Status → String
  | smallStep => "step too small"
  | maxTime => "maximum elapsed time"
  | maxEval => "maximum number of function evaluations"
  | maxIter => "maximum iteration"
  | unknown => "unknown"

def ofName? (text : String) : Option Status := all.find? (·.name == text)

end Status

structure Stats (R : Type) where
  status : Status
  solution : List R
  /-- The mean of the points of the last iteration. -/
  averagedSolution : List R
  /-- The objective at the initial point. -/
  objective : R
  /-- The norm of the gradient at the initial point. -/
  gradientNorm : R
  /-- The time of the run in seconds. -/
  elapsedTime : R
  iterations : Nat
  /-- The evaluation counters after the run. -/
  counters : Fields R
  /-- What else the solver reports. -/
  solverSpecific : Fields R

end Multigrad
