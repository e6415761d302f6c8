import Multigrad.Value.Basic

/-!
# Settings of the stochastic gradient solver

Properties by name, their initial values, and the settings that a run reads from them. A property
may hold any value; one of the wrong type makes a run fail when the run comes to use it.
-/

namespace Multigrad

structure Settings (R : Type) where
  name : Value R
  learningRate : Value R
  /-- The initial step size, which a constant learning rate keeps. -/
  stepSize : Value R
  alpha : Value R
  /-- The share of the square penalty in a mixed one. -/
  rho : Value R
  penalty : Value R
  /-- The most evaluations, or zero for any number. -/
  maxEval : Value R
  maxTime : Value R
  maxIter : Value R
  /-- The power by which an inversely scaled learning rate falls. -/
  powerT : Value R
  /-- A step size below is too small. -/
  stepTol : Value R
  seed : Value R
  /-- The orders in which to visit the objectives, or null for random ones. -/
  rng : Value R

namespace Settings

variable {R : Type} [Scalar R]

def solverName : String := "Stochastic Gradient Descent"

def solverShortName : String := "sgd"

def commonProperties : Fields R := [("max_time", .real 60.0)]

def initialProperties : Fields R :=
  commonProperties ++
    [("learning_rate", .text "optimal"),
     ("step_size", .real 1e-2),
     ("alpha", .real 1e-2),
     ("rho", .real 0.85),
     ("penalty", .text "l2"),
     ("max_eval", .int 0),
     ("max_iter", .int 1000),
     ("power_t", .real 1e-2),
     ("step_tol", .real 1e-6),
     ("seed", .null),
     ("rng", .null)]

omit [Scalar R] in
/-- The settings among properties; the name may be one of them. -/
def ofProperties (properties : Fields R) : Settings R :=
  let read (key : String) : Value R := (properties.get? key).getD .null
  { name := (properties.get? "name").getD (.text solverName)
    learningRate := read "learning_rate"
    stepSize := read "step_size"
    alpha := read "alpha"
    rho := read "rho"
    penalty := read "penalty"
    maxEval := read "max_eval"
    maxTime := read "max_time"
    maxIter := read "max_iter"
    powerT := read "power_t"
    stepTol := read "step_tol"
    seed := read "seed"
    rng := read "rng" }

def initial : Settings R := ofProperties initialProperties

end Settings

/-! ### Configuration -/

/-- What a user is warned about. -/
inductive Warning (R : Type) where
  | unknownProperty (property : String) (solver : Value R)
  | alreadyRegistered (name : Value R)

/-- An assignment of a property, and the warning if the solver did not have it. -/
structure Assignment (R : Type) where
  property : String
  value : Value R
  warning : Option (Warning R)

end Multigrad
