import Multigrad.Value.Basic

/-!
# Grids

Rectangular arrays of scalars, and reading one from a value. A grid without sides is a single
scalar, a grid with one side a vector.
-/

namespace Multigrad

structure Grid (R : Type) where
  shape : List Nat
  entries : List R

variable {R : Type}

namespace Grid

def ofList (entries : List R) : Grid R := ⟨[entries.length], entries⟩

/-- The part of the grid at an index of its first side. -/
def row? (grid : Grid R) (index : Nat) : Except Mishap (Grid R) :=
  match grid.shape with
  | [] => .error .badIndex
  | side :: inner =>
    let size := inner.foldr (· * ·) 1
    if index < side then .ok ⟨inner, (grid.entries.drop (index * size)).take size⟩
    else .error .badIndex

def scalar? (grid : Grid R) : Except Mishap R :=
  match grid.entries with
  | [entry] => .ok entry
  | _ => .error .wrongType

def vector? (grid : Grid R) : Except Mishap (List R) :=
  match grid.shape with
  | [_] => .ok grid.entries
  | _ => .error .badRank

end Grid

namespace Value

/-- The shape as messages write it. -/
def shapeText : List Nat → String
  | [] => "()"
  | [side] => "(" ++ toString side ++ ",)"
  | sides => "(" ++ ", ".intercalate (sides.map toString) ++ ")"

/-- The shape of a list whose items have these shapes; they all have to be the same. -/
def outerShape? : List (List Nat) → Option (List Nat)
  | [] => some [0]
  | shape :: rest => if rest.all (· == shape) then some ((rest.length + 1) :: shape) else none

mutual

/-- The sides of a nested list, if all lists at one depth have the same length. -/
def shape? : Value R → Option (List Nat)
  | .list items => shapes? items >>= outerShape?
  | .array shape _ => some shape
  | _ => some []

def shapes? : List (Value R) → Option (List (List Nat))
  | [] => some []
  | item :: rest => do
    let shape ← item.shape?
    let others ← shapes? rest
    return shape :: others

end

def entryValues : Entries R → List (Value R)
  | .reals entries => entries.map .real
  | .ints entries => entries.map .int

mutual

/-- What stands inside all lists, in order. -/
def leaves : Value R → List (Value R)
  | .list items => leavesOf items
  | .array _ entries => entryValues entries
  | value => [value]

def leavesOf : List (Value R) → List (Value R)
  | [] => []
  | item :: rest => item.leaves ++ leavesOf rest

end

variable [Scalar R] [Completion R]

/-- An entry of a grid: numbers, flags and numerals, and nothing for a missing entry. -/
def entry? : Value R → Except Mishap R
  | .null => .ok Completion.missing
  | .flag b => .ok (Scalar.ofInt (if b then 1 else 0))
  | .int n => Scalar.ofInt? n
  | .real r => .ok r
  | .text s =>
    match Completion.ofText? s with
    | some r => .ok r
    | none => .error .malformed
  | _ => .error .wrongType

def grid? (value : Value R) : Except Mishap (Grid R) :=
  match value.shape? with
  | none => .error .malformed
  | some shape => do
    let entries ← value.leaves.mapM entry?
    return ⟨shape, entries⟩

end Value

end Multigrad
