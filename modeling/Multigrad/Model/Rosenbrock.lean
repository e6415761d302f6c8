import Multigrad.Model.Basic

/-!
# The Rosenbrock function

Its two summands `(x_0 - 1)^2` and `100 (x_1 - x_0^2)^2` as two objectives. The rows of a point with
several sides take the place of the coordinates.
-/

namespace Multigrad.Rosenbrock

variable {R : Type} [Scalar R]

def square (a : R) : R := a * a

/-- How far a point is from the parabola. -/
def offset (a b : R) : R := b - square a

def value (a : R) : R := square (a - 1.0)

def slope (a : R) : R := 2.0 * (a - 1.0)

def valleyValue (a b : R) : R := 100.0 * square (offset a b)

def valleySlopeFirst (a b : R) : R := -400.0 * a * offset a b

def valleySlopeSecond (a b : R) : R := 200.0 * offset a b

def problem [Completion R] : Meta R :=
  { Meta.ofDimensions 2 2 0 with
    x0 := [-1.2, 1.0]
    objtypes := [.quadratic, .general]
    name := "Rosenbrock" }

def model [Completion R] : Model R where
  kind := "RosenbrockModel"
  title := "Rosenbrock"
  problem := problem
  value index x := do
    let first ← x.row? 0
    if index = 0 then return value (← first.scalar?)
    else
      let second ← x.row? 1
      return valleyValue (← first.scalar?) (← second.scalar?)
  gradient index x := do
    if index = 0 then
      let first ← x.row? 0
      match first.shape with
      | [] => return [slope (← first.scalar?), 0.0]
      | _ => .error .malformed
    else
      let second ← x.row? 1
      let first ← x.row? 0
      return List.zipWith valleySlopeFirst first.entries second.entries ++
        List.zipWith valleySlopeSecond first.entries second.entries

end Multigrad.Rosenbrock
