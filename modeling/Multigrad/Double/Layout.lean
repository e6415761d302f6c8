import Multigrad.Double.Shortest

/-!
# Texts of doubles

Four ways to write a double. `general` has six leading digits and drops trailing zeros, `scientific`
and `fixed` have a fixed number of places, `plain` has the shortest digits that read back.
-/

namespace Multigrad.Double

def withSign (negative : Bool) (text : String) : String :=
  if negative then "-" ++ text else text

/-- Writes what is not finite, and hands the rest on. -/
def finiteText (x : Float) (text : Parts → String) : String :=
  match parts? x with
  | some parts => withSign parts.negative (text parts)
  | none => if x.isNaN then "nan" else withSign (decide (x < 0)) "inf"

/-- An exponent has a sign and at least two digits. -/
def exponentText (exponent : Int) : String :=
  "e" ++ (if exponent < 0 then "-" else "+") ++ Decimal.digitsText 2 exponent.natAbs

def dropZeros (digits : List Char) : List Char :=
  (digits.reverse.dropWhile (· == '0')).reverse

/-- The digits of a number around its point, which stands after the digit of unit weight:
whole part and fraction, without zeros at the end of the fraction. -/
def aroundPoint (digits : Nat) (exponent : Int) : List Char × List Char :=
  let chars := Nat.toDigits 10 digits
  if exponent < 0 then
    (['0'], dropZeros (List.replicate (-exponent - 1).toNat '0' ++ chars))
  else
    let wholeLength := exponent.toNat + 1
    let padded := chars ++ List.replicate (wholeLength - chars.length) '0'
    (padded.take wholeLength, dropZeros (padded.drop wholeLength))

/-- The significand of scientific notation: one digit, a point, and the rest without zeros at the
end. -/
def significand (digits : Nat) : String :=
  match Nat.toDigits 10 digits with
  | [] => ""
  | first :: rest =>
    match dropZeros rest with
    | [] => String.singleton first
    | fraction => String.ofList (first :: '.' :: fraction)

/-- Six leading digits without zeros at the end; positional for exponents from -4 to 5. -/
def general (x : Float) : String :=
  finiteText x fun parts =>
    if parts.mantissa = 0 then "0"
    else
      let (n, d) := parts.ratio
      let (digits, exponent) := Decimal.leadingDigits n d 6
      if -4 ≤ exponent ∧ exponent < 6 then
        match aroundPoint digits exponent with
        | (whole, []) => String.ofList whole
        | (whole, fraction) => String.ofList (whole ++ '.' :: fraction)
      else significand digits ++ exponentText exponent

def scientific (places : Nat) (x : Float) : String :=
  finiteText x fun parts =>
    if parts.mantissa = 0 then Decimal.pointText places 0 ++ exponentText 0
    else
      let (n, d) := parts.ratio
      let (digits, exponent) := Decimal.leadingDigits n d (places + 1)
      Decimal.pointText places digits ++ exponentText exponent

def fixed (places : Nat) (x : Float) : String :=
  finiteText x fun parts =>
    let (n, d) := parts.ratio
    Decimal.pointText places (Decimal.roundDiv (n * Nat.pow 10 places) d)

/-- Whole part and fraction of the shortest digits of a finite magnitude. -/
def shortestAroundPoint (parts : Parts) : List Char × List Char :=
  if parts.mantissa = 0 then (['0'], [])
  else
    let (digits, exponent) := shortestDigits parts
    aroundPoint digits exponent

/-- The shortest digits that read back; positional for exponents from -4 to 15, and then with at
least one digit after the point. -/
def plain (x : Float) : String :=
  finiteText x fun parts =>
    if parts.mantissa = 0 then "0.0"
    else
      let (digits, exponent) := shortestDigits parts
      if -4 ≤ exponent ∧ exponent < 16 then
        match aroundPoint digits exponent with
        | (whole, []) => String.ofList whole ++ ".0"
        | (whole, fraction) => String.ofList (whole ++ '.' :: fraction)
      else significand digits ++ exponentText exponent

end Multigrad.Double
