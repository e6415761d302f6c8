import Multigrad.Meta.Basic
import Multigrad.Double.Completion
import Multigrad.Histogram

/-!
# The description of metadata

A table with the variables on the left and the constraints on the right.
-/

namespace Multigrad.Meta

def setLabels (all : String) : List String :=
  [all, "free", "lower", "upper", "low/upp", "fixed", "infeas"]

/-- The sizes of the sets in the order of their labels, after their sum. -/
def setCounts (sets : BoundSets) : List Int :=
  let counts : List Int :=
    [sets.free.length, sets.lower.length, sets.upper.length, sets.range.length, sets.fixed.length,
      sets.infeasible.length]
  counts.foldr (· + ·) 0 :: counts

def setLines (label : String) (sets : BoundSets) : Except Mishap (List String) :=
  Histogram.lines (setLabels label) (setCounts sets)

/-- The share that the Hessian fills of a triangle, which is halved as a double. -/
def hessianLine (problem : Meta Float) : Except Mishap String := do
  let entries ← Double.quotient? (problem.nvar * (problem.nvar + 1)) 2
  Histogram.sparsityLine "nnzh" (.int problem.nnzh) (.real entries)

def jacobianLine (problem : Meta Float) : Except Mishap String :=
  Histogram.sparsityLine "nnzj" (.int problem.nnzj) (.int (problem.nvar * problem.ncon))

def variableLines (problem : Meta Float) : Except Mishap (List String) := do
  let bars ← setLines "All variables" problem.variableSets
  let hessian ← problem.hessianLine
  return bars ++ [hessian]

def constraintLines (problem : Meta Float) : Except Mishap (List String) := do
  let bars ← setLines "All constraints" problem.constraintSets
  let linear ← Histogram.line "linear" problem.nlin problem.ncon
  let nonlinear ← Histogram.line "nonlinear" problem.nnln problem.ncon
  let jacobian ← problem.jacobianLine
  return bars ++ [linear, nonlinear, jacobian]

/-- Joins two columns; the left one is filled up with blank lines as wide as its first line. -/
def sideBySide (left right : List String) : List String :=
  let blank := Text.blanks ((left.head?.map String.length).getD 0)
  let filled := left ++ List.replicate (right.length - left.length) blank
  (filled.zip right).map fun (l, r) => l ++ "  " ++ r

def lines (problem : Meta Float) : Except Mishap (List String) := do
  let left ← problem.variableLines
  let right ← problem.constraintLines
  return sideBySide left right

def text (problem : Meta Float) : Except Mishap String := do
  let table ← problem.lines
  let head :=
    ["  Problem name: " ++ problem.name, "  Number of objectives: " ++ toString problem.nobj]
  return "\n".intercalate (head ++ table) ++ "\n"

end Multigrad.Meta
