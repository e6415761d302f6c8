import Multigrad.Scalar

/-!
# Bounds

Pairs of lower and upper bounds sorted by their pattern. An infinite bound is an absent one.
-/

namespace Multigrad

/-- The indices of the pairs with each pattern, in increasing order. -/
structure BoundSets where
  fixed : List Nat
  lower : List Nat
  upper : List Nat
  range : List Nat
  free : List Nat
  infeasible : List Nat
deriving DecidableEq, Repr

namespace Bounds

variable {R : Type} [Scalar R] [Completion R]

def hasLower (lower : R) : Bool := Scalar.less (-Completion.infinity) lower

def hasUpper (upper : R) : Bool := Scalar.less upper Completion.infinity

def isFixed (lower upper : R) : Bool := Scalar.same lower upper

def isLower (lower upper : R) : Bool := hasLower lower && !hasUpper upper && !isFixed lower upper

def isUpper (lower upper : R) : Bool := !hasLower lower && hasUpper upper && !isFixed lower upper

def isRange (lower upper : R) : Bool := hasLower lower && hasUpper upper && Scalar.less lower upper

def isFree (lower upper : R) : Bool := !hasLower lower && !hasUpper upper && !isFixed lower upper

def isInfeasible (lower upper : R) : Bool := Scalar.less upper lower

def indicesWhere (property : R → R → Bool) (pairs : List (R × R)) : List Nat :=
  (pairs.zipIdx.filter fun ((lower, upper), _) => property lower upper).map (·.2)

def sets (pairs : List (R × R)) : BoundSets where
  fixed := indicesWhere isFixed pairs
  lower := indicesWhere isLower pairs
  upper := indicesWhere isUpper pairs
  range := indicesWhere isRange pairs
  free := indicesWhere isFree pairs
  infeasible := indicesWhere isInfeasible pairs

/-- Pairs two vectors up; a vector of length one serves for every index of the other. -/
def pairs? (lower upper : List R) : Except Mishap (List (R × R)) :=
  if lower.length = upper.length then .ok (lower.zip upper)
  else
    match lower, upper with
    | [l], us => .ok (us.map (l, ·))
    | ls, [u] => .ok (ls.map (·, u))
    | _, _ => .error .malformed

def classify (lower upper : List R) : Except Mishap BoundSets := (pairs? lower upper).map sets

end Bounds

end Multigrad
