import Multigrad.Meta.Failure
import Multigrad.Model.Basic

/-!
# Linear regression

One objective for each row of a matrix: half the squared residual of the row. The weights make their
sum the mean.
-/

namespace Multigrad.Regression

variable {R : Type} [Scalar R]

/-- Adds the products of a row and a point onto a start value. -/
def accumulate (start : R) : List R → List R → R
  | _, [] => start
  | [], _ => start
  | a :: row, b :: x => accumulate (start + a * b) row x

/-- The residual of a row; a short point uses the beginning of the row. -/
def residual (row : List R) (observation : R) (x : List R) : R := accumulate (-observation) row x

def value (row : List R) (observation : R) (x : List R) : R :=
  0.5 * residual row observation x * residual row observation x

def gradient (row : List R) (observation : R) (x : List R) : List R :=
  row.map (residual row observation x * ·)

structure Data (R : Type) where
  columns : Nat
  rows : List (List R × R)

namespace Data

def row? (data : Data R) (index : Nat) : Except Mishap (List R × R) :=
  match data.rows[index]? with
  | some row => .ok row
  | none => .error .badIndex

def residuals (data : Data R) (x : Grid R) : Except Mishap (List R) := do
  let x ← x.vector?.mapError fun _ => Mishap.malformed
  if x.length = data.columns then
    return data.rows.map fun (row, observation) => accumulate 0.0 row x - observation
  else .error .malformed

end Data

inductive Failure where
  | noMatrix (shape : List Nat)
  | observations (shape : List Nat) (rows : Nat)
  | noColumns (rows : Nat)
  | mishap (mishap : Mishap)
deriving DecidableEq, Repr

def Failure.message? : Failure → Option String
  | .noMatrix shape => some s!"X must be a matrix, got shape {Value.shapeText shape}"
  | .observations shape rows =>
    some s!"y has shape {Value.shapeText shape}, but X has {rows} rows"
  | .noColumns rows => (Meta.Failure.nonsense 0 rows 0).message?
  | .mishap _ => none

def cut (columns : Nat) : (rows : Nat) → List R → List (List R)
  | 0, _ => []
  | rows + 1, entries => entries.take columns :: cut columns rows (entries.drop columns)

/-- A single scalar counts as a vector. -/
def sides (grid : Grid R) : List Nat := if grid.shape.isEmpty then [1] else grid.shape

def Data.ofGrids (x y : Grid R) : Except Failure (Data R) :=
  match sides x with
  | [rows, columns] =>
    if sides y = [rows] then
      if columns = 0 then .error (.noColumns rows)
      else .ok ⟨columns, (cut columns rows x.entries).zip y.entries⟩
    else .error (.observations (sides y) rows)
  | shape => .error (.noMatrix shape)

def Data.ofValues [Completion R] (x y : Value R) : Except Failure (Data R) := do
  let x ← x.grid?.mapError .mishap
  let y ← y.grid?.mapError .mishap
  Data.ofGrids x y

variable [Completion R]

def problem (data : Data R) : Meta R :=
  let nobj := data.rows.length
  { Meta.ofDimensions data.columns nobj 0 with
    weights := List.replicate nobj (1.0 / Scalar.ofInt nobj)
    objtypes := List.replicate nobj .quadratic
    name := "LinearRegression" }

def model (data : Data R) : Model R where
  kind := "LinearRegressionModel"
  title := "Linear Regression"
  problem := problem data
  value index x := do
    let (row, observation) ← data.row? index
    return value row observation (← x.vector?)
  gradient index x := do
    let (row, observation) ← data.row? index
    return gradient row observation (← x.vector?)

end Multigrad.Regression
