import Multigrad.Scalar
import Multigrad.Decimal.Rounding

/-!
# Doubles

A finite double is `mantissa * 2 ^ exponent` with a sign. Comparison with integers, quotients of
integers and roundings to integers are done on that exact form.
-/

namespace Multigrad.Double

structure Parts where
  negative : Bool
  mantissa : Nat
  exponent : Int
deriving DecidableEq, Repr

def parts? (x : Float) : Option Parts :=
  let bits := x.toBits.toNat
  let field : Nat := bits / Nat.pow 2 52 % Nat.pow 2 11
  let fraction : Nat := bits % Nat.pow 2 52
  let negative := decide (Nat.pow 2 63 ≤ bits)
  if field = 2047 then none
  else if field = 0 then some ⟨negative, fraction, -1074⟩
  else some ⟨negative, fraction + Nat.pow 2 52, (field : Int) - 1075⟩

namespace Parts

def ratio (parts : Parts) : Nat × Nat :=
  if 0 ≤ parts.exponent then (parts.mantissa * Nat.pow 2 parts.exponent.toNat, 1)
  else (parts.mantissa, Nat.pow 2 (-parts.exponent).toNat)

def signed (parts : Parts) (n : Nat) : Int := if parts.negative then -(n : Int) else n

def truncate (parts : Parts) : Int :=
  let (n, d) := parts.ratio
  parts.signed (n / d)

def floor (parts : Parts) : Int :=
  let (n, d) := parts.ratio
  Int.fdiv (parts.signed n) d

def isInteger (parts : Parts) : Bool :=
  let (n, d) := parts.ratio
  n % d == 0

def compareInt (parts : Parts) (k : Int) : Ordering :=
  let (n, d) := parts.ratio
  compare (parts.signed n) (k * d)

end Parts

def lessInt (x : Float) (k : Int) : Bool :=
  match parts? x with
  | some parts => parts.compareInt k == .lt
  | none => decide (x < 0)

def intLess (k : Int) (x : Float) : Bool :=
  match parts? x with
  | some parts => parts.compareInt k == .gt
  | none => decide (0 < x)

def sameInt (x : Float) (k : Int) : Bool :=
  match parts? x with
  | some parts => parts.compareInt k == .eq
  | none => false

/-- The nearest `mantissa * 2 ^ exponent` to a ratio with a mantissa of at most 53 bits; a tie goes
to the even mantissa. Magnitudes below the normal range keep the exponent `-1074`. -/
def nearest (numerator denominator : Nat) : Nat × Int :=
  if numerator = 0 then (0, -1074)
  else
    let guess : Int := (numerator.log2 : Int) - denominator.log2 - 52
    let scaled (e : Int) : Nat × Nat :=
      if 0 ≤ e then (numerator, denominator * Nat.pow 2 e.toNat)
      else (numerator * Nat.pow 2 (-e).toNat, denominator)
    let (n, d) := scaled guess
    let fitted := if n / d < Nat.pow 2 52 then guess - 1 else guess
    let exponent := max fitted (-1074)
    let (n, d) := scaled exponent
    (Decimal.roundDiv n d, exponent)

/-- A mantissa that was rounded up to 54 bits is halved. -/
def carry (mantissa : Nat) (exponent : Int) : Nat × Int :=
  if mantissa = Nat.pow 2 53 then (Nat.pow 2 52, exponent + 1) else (mantissa, exponent)

/-- Whether a pair that `nearest` gives is too large for a finite double. -/
def outOfRange (mantissa : Nat) (exponent : Int) : Bool :=
  let (mantissa, exponent) := carry mantissa exponent
  decide (Nat.pow 2 52 ≤ mantissa) && decide (971 < exponent)

/-- The double that is `mantissa * 2 ^ exponent`, for a pair that `nearest` gives; infinite beyond
the range. -/
def ofParts (negative : Bool) (mantissa : Nat) (exponent : Int) : Float :=
  let (mantissa, exponent) := carry mantissa exponent
  let magnitude :=
    if mantissa < Nat.pow 2 52 then mantissa
    else if 971 < exponent then 2047 * Nat.pow 2 52
    else (exponent + 1075).toNat * Nat.pow 2 52 + (mantissa - Nat.pow 2 52)
  Float.ofBits (UInt64.ofNat (magnitude + if negative then Nat.pow 2 63 else 0))

def ofInt (k : Int) : Float :=
  let (mantissa, exponent) := nearest k.natAbs 1
  ofParts (decide (k < 0)) mantissa exponent

/-- The correctly rounded quotient of two integers, if it is in range. -/
def quotient? (numerator denominator : Int) : Except Mishap Float :=
  if denominator = 0 then .error .zeroDivision
  else
    let (mantissa, exponent) := nearest numerator.natAbs denominator.natAbs
    let negative := decide (numerator < 0) != decide (denominator < 0)
    if outOfRange mantissa exponent then .error .overflow
    else .ok (ofParts negative mantissa exponent)

instance : Scalar Float where
  less a b := decide (a < b)
  atMost a b := decide (a ≤ b)
  same a b := a == b
  lessInt := lessInt
  intLess := intLess
  sameInt := sameInt
  ofInt := ofInt
  floor? x := (parts? x).map Parts.floor

end Multigrad.Double
