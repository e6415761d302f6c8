import Multigrad.Solver.Settings

/-!
# Learning rates

How the step size depends on the iteration.
-/

namespace Multigrad

inductive LearningRate where
  | optimal
  | invscaling
  | constant
deriving DecidableEq, Repr

namespace LearningRate

def all : List LearningRate := [optimal, invscaling, constant]

def name : LearningRate → String
  | optimal => "optimal"
  | invscaling => "invscaling"
  | constant => "constant"

def ofValue? {R : Type} : Value R → Option LearningRate
  | .text s => all.find? (·.name == s)
  | _ => none

end LearningRate

namespace Settings

variable {R : Type} [Scalar R]

/-- `1 / (alpha * (1000 + k))` in iteration `k`. -/
def optimalStep (settings : Settings R) (iteration : Int) : Except Mishap R := do
  let offset ← Scalar.ofInt? iteration
  let alpha ← settings.alpha.real?
  Scalar.divide? 1.0 (alpha * (1e3 + offset))

/-- The exponent of a power, which may be an integer. -/
def exponent? (value : Value R) : Except Mishap (Int ⊕ R) := do
  match ← value.number? with
  | .int n => return .inl n
  | .real r => return .inr r

/-- `0.01 / (k + 1) ^ power_t` in iteration `k`. -/
def scaledStep [Completion R] (settings : Settings R) (iteration : Int) : Except Mishap R := do
  let exponent ← exponent? settings.powerT
  let power ← Completion.power (iteration + 1) exponent
  Scalar.divide? 1e-2 power

def nextStep [Completion R] (settings : Settings R) (iteration : Int) (step : Number R) :
    Except Mishap (Number R) :=
  match LearningRate.ofValue? settings.learningRate with
  | some .optimal => (settings.optimalStep iteration).map .real
  | some .invscaling => (settings.scaledStep iteration).map .real
  | some .constant => .ok step
  | none => .ok step

end Settings

end Multigrad
