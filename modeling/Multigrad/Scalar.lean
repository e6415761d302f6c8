/-!
# Scalars

Models and solvers compute with any type of scalars: doubles when a program runs, rationals when a
law of exact arithmetic is stated. `Scalar` is what both have, `Completion` what only doubles have.
-/

namespace Multigrad

/-- Why an elementary reading or operation has no result. -/
inductive Mishap where
  /-- The value is of a kind that the operation does not take. -/
  | wrongType
  /-- The kind is right and the content is not. -/
  | malformed
  /-- The result is too large for a scalar or a machine integer. -/
  | overflow
  | zeroDivision
  | badIndex
  | noAttribute
  /-- A kernel for vectors met a point of another rank. -/
  | badRank
deriving DecidableEq, Repr

/-- Arithmetic, exact order tests, and the way from the integers. An order test on an unordered pair
answers `false`. -/
class Scalar (R : Type) extends Add R, Sub R, Mul R, Div R, Neg R, OfScientific R where
  less : R → R → Bool
  atMost : R → R → Bool
  same : R → R → Bool
  /-- Compares without rounding the integer. -/
  lessInt : R → Int → Bool
  /-- Compares without rounding the integer. -/
  intLess : Int → R → Bool
  /-- Compares without rounding the integer. -/
  sameInt : R → Int → Bool
  ofInt : Int → R
  /-- The greatest integer below, for a scalar that is a number. -/
  floor? : R → Option Int

/-- What exact arithmetic lacks: absent bounds, missing entries, roots, powers and decimal text. -/
class Completion (R : Type) where
  infinity : R
  /-- Stands for an entry that is not there. -/
  missing : R
  sqrt : R → R
  /-- An integer raised to an integer or a scalar power. -/
  power : Int → Int ⊕ R → Except Mishap R
  ofText? : String → Option R

namespace Scalar

variable {R : Type} [Scalar R]

/-- The nearest scalar, if it is a number. -/
def ofInt? (n : Int) : Except Mishap R :=
  let r : R := ofInt n
  if (floor? r).isSome then .ok r else .error .overflow

def divide? (a b : R) : Except Mishap R :=
  if same b 0.0 then .error .zeroDivision else .ok (a / b)

/-- The sign as a scalar; a scalar without an order is its own sign. -/
def sign (a : R) : R :=
  if less 0.0 a then 1.0 else if less a 0.0 then -1.0 else if same a 0.0 then 0.0 else a

def isMissing (a : R) : Bool := !same a a

end Scalar

instance : Scalar Rat where
  less a b := decide (a < b)
  atMost a b := decide (a ≤ b)
  same a b := decide (a = b)
  lessInt a n := decide (a < (n : Rat))
  intLess n a := decide ((n : Rat) < a)
  sameInt a n := decide (a = (n : Rat))
  ofInt n := n
  floor? a := some a.floor

/-- An integer or a scalar, where programs take both. -/
inductive Number (R : Type) where
  | int (n : Int)
  | real (r : R)

namespace Number

variable {R : Type} [Scalar R]

def less : Number R → Number R → Bool
  | .int a, .int b => decide (a < b)
  | .int a, .real b => Scalar.intLess a b
  | .real a, .int b => Scalar.lessInt a b
  | .real a, .real b => Scalar.less a b

def atMostZero : Number R → Bool
  | .int a => decide (a ≤ 0)
  | .real a => Scalar.atMost a 0.0

def same : Number R → Number R → Bool
  | .int a, .int b => decide (a = b)
  | .int a, .real b => Scalar.sameInt b a
  | .real a, .int b => Scalar.sameInt a b
  | .real a, .real b => Scalar.same a b

/-- The scalar that arithmetic with other scalars uses. -/
def toReal : Number R → Except Mishap R
  | .int n => Scalar.ofInt? n
  | .real r => .ok r

/-- The greatest integer below, if there is one. -/
def floor? : Number R → Option Int
  | .int n => some n
  | .real r => Scalar.floor? r

end Number

end Multigrad
