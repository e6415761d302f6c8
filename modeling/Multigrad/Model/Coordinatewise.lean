import Multigrad.Model.Basic

/-!
# Models by coefficients

Quadratic objectives without mixed terms, and linear objectives. The coefficients of an objective
are the rows of matrices.
-/

namespace Multigrad

variable {R : Type} [Scalar R]

def rowOf (rows : List (List R)) (index : Nat) : Except Mishap (List R) :=
  match rows[index]? with
  | some row => .ok row
  | none => .error .badIndex

/-- The coordinates of a point that a row of coefficients needs. -/
def coordinates (x : Grid R) (count : Nat) : Except Mishap (List R) :=
  match x.shape with
  | [_] => if x.entries.length < count then .error .badIndex else .ok (x.entries.take count)
  | [] => .error .badIndex
  | _ => .error .wrongType

namespace Quadratic

/-- Adds `a_j (x_j - c_j)^2` over all coordinates onto a start value. -/
def accumulate (start : R) : List R → List R → List R → R
  | a :: as, c :: cs, x :: xs => accumulate (start + a * ((x - c) * (x - c))) as cs xs
  | _, _, _ => start

def value (a c x : List R) : R := 0.5 * accumulate 0.0 a c x

def gradient : List R → List R → List R → List R
  | a :: as, c :: cs, x :: xs => a * (x - c) :: gradient as cs xs
  | _, _, _ => []

def model (a c : List (List R)) (problem : Meta R) : Model R where
  kind := "Quadratic"
  title := "Generic"
  problem := problem
  value index x := do
    let curvatures ← rowOf a index
    let centre ← rowOf c index
    return value curvatures centre (← coordinates x centre.length)
  gradient index x := do
    let curvatures ← rowOf a index
    let centre ← rowOf c index
    return gradient curvatures centre (← coordinates x centre.length)

end Quadratic

namespace Linear

/-- Adds `c_j x_j` over all coordinates onto a start value. -/
def accumulate (start : R) : List R → List R → R
  | c :: cs, x :: xs => accumulate (start + c * x) cs xs
  | _, _ => start

def model (c : List (List R)) (problem : Meta R) : Model R where
  kind := "Linear"
  title := "Generic"
  problem := problem
  value index x := do
    let slopes ← rowOf c index
    return accumulate 0.0 slopes (← coordinates x slopes.length)
  gradient index _ := rowOf c index

end Linear

end Multigrad
