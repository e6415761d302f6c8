import Multigrad.Double.Basic
import Multigrad.Decimal.Numeral

/-!
# Doubles as completed scalars

Infinities, the undefined number, roots, powers and decimal texts of doubles.
-/

namespace Multigrad.Double

def infinity : Float := Float.ofBits 0x7ff0000000000000

def undefined : Float := Float.ofBits 0x7ff8000000000000

/-- The nearest double to a decimal fraction. Exponents far outside the range are settled without
writing the power of ten out. -/
def ofFraction (fraction : Decimal.Fraction) : Float :=
  let leading := fraction.exponent + Decimal.length fraction.digits
  if fraction.digits = 0 || leading < -400 then 0.0
  else if 400 < leading then infinity
  else
    let (n, d) := Decimal.scale fraction.digits 1 fraction.exponent
    let (mantissa, exponent) := nearest n d
    ofParts false mantissa exponent

def ofText? (text : String) : Option Float :=
  (Decimal.scalar? text).map fun (negative, reading) =>
    let magnitude :=
      match reading with
      | .infinite => infinity
      | .undefined => undefined
      | .finite fraction => ofFraction fraction
    if negative then -magnitude else magnitude

/-- A power of two finite doubles that leaves the range has no result, and neither has a negative
power of zero. An infinite or undefined exponent follows the limits. -/
def powerOf (base exponent : Float) : Except Mishap Float :=
  let result := base.pow exponent
  if exponent.isNaN || exponent.isInf then .ok result
  else if base == 0.0 && exponent < 0.0 then .error .zeroDivision
  else if result.isInf && !base.isInf then .error .overflow
  else .ok result

/-- Beyond this exponent every base of magnitude two or more leaves the range. -/
def exponentLimit : Int := 1100

def power (base : Int) : Int ⊕ Float → Except Mishap Float
  | .inr exponent => do
    let base ← Scalar.ofInt? base
    powerOf base exponent
  | .inl exponent =>
    if 0 ≤ exponent then
      if exponentLimit < exponent ∧ 2 ≤ base.natAbs then .error .overflow
      else if exponentLimit < exponent then
        Scalar.ofInt? (base.pow (exponent % 2).toNat * base.pow 2)
      else Scalar.ofInt? (base.pow exponent.toNat)
    else do
      let base ← Scalar.ofInt? base
      let exponent ← Scalar.ofInt? exponent
      powerOf base exponent

instance : Completion Float where
  infinity := infinity
  missing := undefined
  sqrt := Float.sqrt
  power := power
  ofText? := ofText?

end Multigrad.Double
