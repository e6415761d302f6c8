import Multigrad.Double.Layout
import Multigrad.Text.Blank

/-!
# Histogram lines

A labelled bar for a count out of a total, and a labelled percentage for the entries that are zero.
-/

namespace Multigrad.Histogram

def barWidth : Nat := 20

/-- The least whole number that is not below `mantissa * 2 ^ exponent`. -/
def ceiling (mantissa : Nat) (exponent : Int) : Nat :=
  if 0 ≤ exponent then mantissa * Nat.pow 2 exponent.toNat
  else (mantissa + Nat.pow 2 (-exponent).toNat - 1) / Nat.pow 2 (-exponent).toNat

/-- How many cells of a bar are filled: the share of the total is computed as a double and rounded
up. -/
def filledCells (value total : Int) : Except Mishap Nat :=
  if total ≤ 0 then .ok 0
  else
    let (mantissa, exponent) := Double.nearest (barWidth * value.natAbs) total.natAbs
    if Double.outOfRange mantissa exponent then .error .overflow
    else if value ≤ 0 then .ok 0
    else .ok (min barWidth (ceiling mantissa exponent))

def bar (filled : Nat) : String :=
  String.ofList (List.replicate filled '█' ++ List.replicate (barWidth - filled) '⋅')

def line (label : String) (value total : Int) : Except Mishap String := do
  let filled ← filledCells value total
  return Text.padLeft 16 label ++ ": " ++ bar filled ++ " " ++ Text.padRight 6 (toString value)

def share : Number Float → Number Float → Except Mishap Float
  | .int value, .int total => Double.quotient? value total
  | value, total => do
    let value ← value.toReal
    let total ← total.toReal
    Scalar.divide? value total

def whole? : Number Float → Except Mishap Int
  | .int n => .ok n
  | .real r =>
    match Double.parts? r with
    | some parts => .ok parts.truncate
    | none => .error (if r.isNaN then .malformed else .overflow)

def sparsityText (value total : Number Float) : Except Mishap String :=
  if total.atMostZero then .ok "(------% sparsity)"
  else do
    let ratio ← share value total
    return "(" ++ Text.padLeft 6 (Double.fixed 2 (100.0 * (1.0 - ratio))) ++ "% sparsity)"

/-- A label, the share of zeros when `value` out of `total` entries are not zero, and `value`. -/
def sparsityLine (label : String) (value total : Number Float) : Except Mishap String := do
  let text ← sparsityText value total
  let count ← whole? value
  return Text.padLeft 16 label ++ ": " ++ Text.padRight barWidth text ++ " " ++
    Text.padRight 6 (toString count)

/-- A bar for each count, relative to the first one. -/
def lines (labels : List String) (values : List Int) : Except Mishap (List String) :=
  match values with
  | [] => .ok []
  | total :: _ => (labels.zip values).mapM fun (label, value) => line label value total

end Multigrad.Histogram
