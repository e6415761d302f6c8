/-!
# Rounding

Division of natural numbers to the nearest, and the leading decimal digits of a ratio.
-/

namespace Multigrad.Decimal

/-- The nearest natural number to a ratio; a tie goes to the even neighbour. -/
def roundDiv (numerator denominator : Nat) : Nat :=
  let quotient := numerator / denominator
  let remainder := numerator % denominator
  if 2 * remainder < denominator then quotient
  else if denominator < 2 * remainder then quotient + 1
  else quotient + quotient % 2

/-- How many decimal digits a natural number has; zero has one. -/
def length (n : Nat) : Nat := (Nat.toDigits 10 n).length

def scale (numerator denominator : Nat) (exponent : Int) : Nat × Nat :=
  if 0 ≤ exponent then (numerator * Nat.pow 10 exponent.toNat, denominator)
  else (numerator, denominator * Nat.pow 10 (-exponent).toNat)

/-- The exponent of the leading decimal digit of a positive ratio. -/
def magnitude (numerator denominator : Nat) : Int :=
  if denominator ≤ numerator then length (numerator / denominator) - 1
  else -(length ((denominator - 1) / numerator) : Int)

/-- A positive ratio rounded to `count` decimal digits, with the exponent of the leading one. -/
def leadingDigits (numerator denominator count : Nat) : Nat × Int :=
  let exponent := magnitude numerator denominator
  let (n, d) := scale numerator denominator ((count : Int) - 1 - exponent)
  let digits := roundDiv n d
  if digits = Nat.pow 10 count then (Nat.pow 10 (count - 1), exponent + 1)
  else (digits, exponent)

/-- The digits of a natural number, padded in front to a least width. -/
def digitsText (width n : Nat) : String :=
  let digits := Nat.toDigits 10 n
  String.ofList (List.replicate (width - digits.length) '0' ++ digits)

/-- A count of units of `10 ^ -places` in positional notation. -/
def pointText (places units : Nat) : String :=
  let whole := digitsText 1 (units / Nat.pow 10 places)
  if places = 0 then whole
  else whole ++ "." ++ digitsText places (units % Nat.pow 10 places)

end Multigrad.Decimal
