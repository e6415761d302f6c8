import Multigrad.Meta.Basic
import Multigrad.Value.Grid
import Multigrad.Counters

/-!
# Models

A model evaluates its objectives and their gradients at a point. The problem's own objective is the
weighted sum of all objectives. Evaluations are counted, also those that fail.
-/

namespace Multigrad

/-- Evaluations by index; the index is that of an objective. -/
structure Model (R : Type) where
  kind : String
  title : String
  problem : Meta R
  value : Nat → Grid R → Except Mishap R
  /-- The entries of a gradient, row by row. -/
  gradient : Nat → Grid R → Except Mishap (List R)

namespace Model

inductive Failure where
  | noObjective (index : Int) (nobj : Nat)
  | mishap (mishap : Mishap)
deriving DecidableEq, Repr

def Failure.message? : Failure → Option String
  | .noObjective index nobj => some s!"Objective index {index} out of range [0, {nobj})"
  | .mishap _ => none

variable {R : Type} [Scalar R]

/-- A point as it was read, which may have failed. -/
abbrev Point (R : Type) := Except Mishap (Grid R)

/-- Adds a vector onto another one; a single entry is added everywhere. -/
def addOnto (sum term : List R) : Except Mishap (List R) :=
  if sum.length = term.length then .ok (List.zipWith (· + ·) sum term)
  else
    match term with
    | [entry] => .ok (sum.map (· + entry))
    | _ => .error .malformed

/-- The weighted sum of the values from an index on. -/
def sumValues (model : Model R) (x : Grid R) : (index : Nat) → List R → R → Except Mishap R
  | _, [], sum => .ok sum
  | index, weight :: rest, sum => do
    let value ← model.value index x
    model.sumValues x (index + 1) rest (sum + weight * value)

/-- The weighted sum of the gradients from an index on. -/
def sumGradients (model : Model R) (x : Grid R) :
    (index : Nat) → List R → List R → Except Mishap (List R)
  | _, [], sum => .ok sum
  | index, weight :: rest, sum => do
    let gradient ← model.gradient index x
    let sum ← addOnto sum (gradient.map (weight * ·))
    model.sumGradients x (index + 1) rest sum

def total (model : Model R) (x : Grid R) : Except Mishap R :=
  model.sumValues x 0 model.problem.weights 0.0

def totalGradient (model : Model R) (x : Grid R) : Except Mishap (List R) :=
  model.sumGradients x 0 model.problem.weights (List.replicate model.problem.nvar 0.0)

/-! ### Counted evaluations -/

/-- Evaluates with an objective's index: the index is checked, the evaluation is counted, and only
then the point is looked at. -/
def evaluateAt {α : Type} (model : Model R) (counter : ObjectiveCounter) (index : Int) (x : Point R)
    (evaluate : Nat → Grid R → Except Mishap α) (counters : Counters) :
    Except Failure α × Counters :=
  if 0 ≤ index ∧ index < model.problem.nobj then
    ((Except.bind x (evaluate index.toNat)).mapError .mishap, counters.bump counter index.toNat)
  else (.error (.noObjective index model.problem.nobj), counters)

/-- Evaluates the whole problem: an evaluation at a point that was not read does not count. -/
def evaluate {α : Type} (counter : ProblemCounter) (x : Point R)
    (evaluate : Grid R → Except Mishap α) (counters : Counters) : Except Failure α × Counters :=
  match x with
  | .error mishap => (.error (.mishap mishap), counters)
  | .ok x => ((evaluate x).mapError .mishap, counters.tick counter)

def objI (model : Model R) (index : Int) (x : Point R) : Counters → Except Failure R × Counters :=
  model.evaluateAt .obji index x model.value

def gradI (model : Model R) (index : Int) (x : Point R) :
    Counters → Except Failure (List R) × Counters :=
  model.evaluateAt .gradi index x model.gradient

def obj (model : Model R) (x : Point R) : Counters → Except Failure R × Counters :=
  evaluate .obj x model.total

def grad (model : Model R) (x : Point R) : Counters → Except Failure (List R) × Counters :=
  evaluate .grad x model.totalGradient

end Model

end Multigrad
