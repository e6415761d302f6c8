import Multigrad.ObjectiveType
import Multigrad.Bounds

/-!
# Problem metadata

The dimensions, weights, bounds and nonzero counts of the problem

    optimize   obj(x) = sum_i w_i obj_i(x)
    subject to lvar <=    x    <= uvar
               lcon <= cons(x) <= ucon
-/

namespace Multigrad

structure Meta (R : Type) where
  nobj : Nat
  weights : List R
  objtypes : List ObjectiveType
  nnzhi : List Nat
  nvar : Nat
  x0 : List R
  lvar : List R
  uvar : List R
  ncon : Nat
  y0 : List R
  lcon : List R
  ucon : List R
  nnzo : Int
  nnzj : Nat
  nnzh : Nat
  lin : List Nat
  nln : List Nat
  nnet : List Nat
  lnet : List Nat
  nlin : Nat
  nnln : Nat
  nnnet : Nat
  nlnet : Nat
  minimize : Bool
  nlo : Int
  islp : Bool
  name : String

namespace Meta

/-- The entries of a full symmetric matrix that are not below its diagonal. -/
def triangle (n : Nat) : Nat := n * (n + 1) / 2

variable {R : Type} [Scalar R] [Completion R]

def ofDimensions (nvar nobj ncon : Nat) : Meta R where
  nobj := nobj
  weights := List.replicate nobj 1.0
  objtypes := List.replicate nobj .general
  nnzhi := List.replicate nobj (triangle nvar)
  nvar := nvar
  x0 := List.replicate nvar 0.0
  lvar := List.replicate nvar (-Completion.infinity)
  uvar := List.replicate nvar Completion.infinity
  ncon := ncon
  y0 := List.replicate ncon 0.0
  lcon := List.replicate ncon (-Completion.infinity)
  ucon := List.replicate ncon Completion.infinity
  nnzo := nvar
  nnzj := nvar * ncon
  nnzh := triangle nvar
  lin := []
  nln := List.range ncon
  nnet := []
  lnet := []
  nlin := 0
  nnln := ncon
  nnnet := 0
  nlnet := 0
  minimize := true
  nlo := 1
  islp := false
  name := "Generic"

def variableSets (problem : Meta R) : BoundSets := Bounds.sets (problem.lvar.zip problem.uvar)

def constraintSets (problem : Meta R) : BoundSets := Bounds.sets (problem.lcon.zip problem.ucon)

def hasBounds (problem : Meta R) : Bool := decide (problem.variableSets.free.length < problem.nvar)

def boundConstrained (problem : Meta R) : Bool := problem.ncon == 0 && problem.hasBounds

def unconstrained (problem : Meta R) : Bool := problem.ncon == 0 && !problem.hasBounds

/-- Whether there are constraints, all of them linear. -/
def linearlyConstrained (problem : Meta R) : Bool :=
  decide (0 < problem.ncon) && problem.nlin == problem.ncon

/-- Whether there are constraints, all of them equations. -/
def equalityConstrained (problem : Meta R) : Bool :=
  decide (0 < problem.ncon) && problem.constraintSets.fixed.length == problem.ncon

/-- Whether there are constraints, none of them an equation. -/
def inequalityConstrained (problem : Meta R) : Bool :=
  decide (0 < problem.ncon) && problem.constraintSets.fixed.length == 0

end Meta

end Multigrad
