import Multigrad.Double.Basic

/-!
# Shortest digits

The fewest decimal digits that read back as a given double, and of those the nearest to it. All
reals between the two midpoints to the neighbouring doubles read back as the double in between; the
midpoints themselves do when its mantissa is even.
-/

namespace Multigrad.Double

/-- The reals that read back as one double: `low`, `middle` and `high` are in units of
`numerator / denominator`, and the ends are included or not. -/
structure Interval where
  low : Nat
  middle : Nat
  high : Nat
  numerator : Nat
  denominator : Nat
  closed : Bool

def Parts.interval (parts : Parts) : Interval :=
  let quarter := parts.exponent - 2
  { low := 4 * parts.mantissa -
      (if parts.mantissa = Nat.pow 2 52 ∧ -1074 < parts.exponent then 1 else 2)
    middle := 4 * parts.mantissa
    high := 4 * parts.mantissa + 2
    numerator := Nat.pow 2 quarter.toNat
    denominator := Nat.pow 2 (-quarter).toNat
    closed := parts.mantissa % 2 == 0 }

def Interval.shift (interval : Interval) (exponent : Int) : Interval :=
  { interval with
    numerator := interval.numerator * Nat.pow 10 exponent.toNat
    denominator := interval.denominator * Nat.pow 10 (-exponent).toNat }

def Interval.contains (interval : Interval) (candidate : Nat) : Bool :=
  let point := candidate * interval.denominator
  let low := interval.low * interval.numerator
  let high := interval.high * interval.numerator
  if interval.closed then decide (low ≤ point) && decide (point ≤ high)
  else decide (low < point) && decide (point < high)

/-- The nearest whole number inside the interval to its middle; a tie goes to the even one. -/
def Interval.whole? (interval : Interval) : Option Nat :=
  let middle := interval.middle * interval.numerator
  let below := middle / interval.denominator
  let remainder := 2 * (middle % interval.denominator)
  match interval.contains below, interval.contains (below + 1) with
  | true, true =>
    if remainder < interval.denominator ∨ (remainder = interval.denominator ∧ below % 2 = 0)
    then some below else some (below + 1)
  | true, false => some below
  | false, true => some (below + 1)
  | false, false => none

/-- Tries grids of one digit after the other; `remaining` of them are left. -/
def Interval.search (interval : Interval) : (remaining : Nat) → Int → Nat × Int
  | 0, place => (0, place)
  | remaining + 1, place =>
    match (interval.shift (-place)).whole? with
    | some digits => (digits, place)
    | none => interval.search remaining (place - 1)

/-- The shortest digits of a positive magnitude and the exponent of the leading one. -/
def shortestDigits (parts : Parts) : Nat × Int :=
  let (n, d) := parts.ratio
  let (digits, place) := parts.interval.search 17 (Decimal.magnitude n d)
  (digits, place + Decimal.length digits - 1)

end Multigrad.Double
