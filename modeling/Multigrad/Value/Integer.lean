import Multigrad.Value.Grid
import Multigrad.Double.Completion

/-!
# Integers from values

Reading an integer or a vector of machine integers. Doubles lose their fraction, texts have to be
integer numerals. An array of one entry stands for that entry.
-/

namespace Multigrad.Value

/-- The integer in a double without its fraction. -/
def truncated? (x : Float) : Except Mishap Int :=
  match Double.parts? x with
  | some parts => .ok parts.truncate
  | none => .error (if x.isNaN then .malformed else .overflow)

def integer? : Value Float → Except Mishap Int
  | .flag b => .ok (if b then 1 else 0)
  | .int n => .ok n
  | .real r => truncated? r
  | .text s =>
    match Decimal.integer? s with
    | some n => .ok n
    | none => .error .malformed
  | .array _ (.ints [n]) => .ok n
  | .array _ (.reals [r]) => truncated? r
  | _ => .error .wrongType

/-- An integer that 64 bits hold, sign included. -/
def machineInteger? (value : Value Float) : Except Mishap Int := do
  let n ← value.integer?
  if -0x8000000000000000 ≤ n ∧ n < 0x8000000000000000 then .ok n else .error .overflow

/-- The machine integer that an entry of an array of doubles is cast to. A double that has none
becomes the least one, as common processors have it. -/
def castReal (r : Float) : Int :=
  match truncated? r >>= fun n => machineInteger? (.int n) with
  | .ok n => n
  | .error _ => -0x8000000000000000

mutual

/-- Arrays of doubles, wherever they stand, as arrays of machine integers. -/
def castArrays : Value Float → Value Float
  | .list items => .list (castArraysOf items)
  | .array shape (.reals entries) => .array shape (.ints (entries.map castReal))
  | value => value

def castArraysOf : List (Value Float) → List (Value Float)
  | [] => []
  | item :: rest => item.castArrays :: castArraysOf rest

end

/-- A grid of machine integers: its shape and its entries row by row. -/
def integerGrid? (value : Value Float) : Except Mishap (List Nat × List Int) :=
  match value.shape? with
  | none => .error .malformed
  | some shape => do
    let entries ← value.castArrays.leaves.mapM machineInteger?
    return (shape, entries)

end Multigrad.Value
