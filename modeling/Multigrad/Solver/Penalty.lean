import Multigrad.Solver.Settings

/-!
# Penalties

The direction in which a regularization pulls at a point.
-/

namespace Multigrad

inductive Penalty where
  | l2
  | l1
  | elasticnet
deriving DecidableEq, Repr

namespace Penalty

def all : List Penalty := [l2, l1, elasticnet]

def name : Penalty → String
  | l2 => "l2"
  | l1 => "l1"
  | elasticnet => "elasticnet"

def ofValue? {R : Type} : Value R → Option Penalty
  | .text s => all.find? (·.name == s)
  | _ => none

end Penalty

inductive Regularizer (R : Type) where
  | l2
  | l1
  | elasticnet (rho : R)

namespace Regularizer

variable {R : Type} [Scalar R]

def pull : Regularizer R → R → R
  | l2, b => b
  | l1, b => Scalar.sign b
  | elasticnet rho, b => rho * b + (1.0 - rho) * Scalar.sign b

def direction (regularizer : Regularizer R) (point : List R) : List R :=
  point.map regularizer.pull

end Regularizer

namespace Settings

variable {R : Type} [Scalar R]

/-- A scalar, also from a numeral. -/
def scalarOrText? [Completion R] (value : Value R) : Except Mishap R :=
  match value with
  | .text s =>
    match Completion.ofText? s with
    | some r => .ok r
    | none => .error .malformed
  | value => value.real?

/-- The regularizer that the settings choose; any other penalty is the mixed one. -/
def regularizer [Completion R] (settings : Settings R) : Except Mishap (Regularizer R) :=
  match Penalty.ofValue? settings.penalty with
  | some .l2 => .ok .l2
  | some .l1 => .ok .l1
  | some .elasticnet => (scalarOrText? settings.rho).map .elasticnet
  | none => (scalarOrText? settings.rho).map .elasticnet

end Settings

end Multigrad
