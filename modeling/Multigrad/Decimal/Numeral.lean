import Multigrad.Decimal.Digit
import Multigrad.Scalar
import Multigrad.Text.Blank

/-!
# Numerals

Reading integers and decimal fractions. Blanks may stand around a numeral, a sign before it, and a
single underscore between two digits.
-/

namespace Multigrad.Decimal

/-- The value of a digit sequence, read onto `value`. -/
def digitsOnto : Nat → List Char → Option Nat
  | value, [] => some value
  | value, '_' :: c :: rest => do
    let d ← digit? c
    digitsOnto (10 * value + d) rest
  | value, c :: rest => do
    let d ← digit? c
    digitsOnto (10 * value + d) rest

/-- The value of a digit sequence that is not empty and starts with a digit. -/
def natural? : List Char → Option Nat
  | [] => none
  | c :: rest => do
    let d ← digit? c
    digitsOnto d rest

def signed : List Char → Bool × List Char
  | '+' :: rest => (false, rest)
  | '-' :: rest => (true, rest)
  | chars => (false, chars)

def integer? (text : String) : Option Int := do
  let (negative, digits) := signed (Text.trim text.toList)
  let n ← natural? digits
  return if negative then -(n : Int) else n

/-- An integer without digits of other scripts, which may have zeros after a point. -/
def wholeNumber? (text : String) : Option Int := do
  let chars := Text.trim text.toList
  let whole := chars.takeWhile (· != '.')
  let fraction := (chars.drop whole.length).drop 1
  if chars.all (fun c => c.toNat < 128) && fraction.all (· == '0') then
    let (negative, digits) := signed whole
    let n ← natural? digits
    return if negative then -(n : Int) else n
  else none

def countDigits (chars : List Char) : Nat := (chars.filter (· != '_')).length

/-- The digits in front of a point or an exponent may be missing when digits follow the point. -/
def optionalNatural? (chars : List Char) : Option Nat :=
  if chars.isEmpty then some 0 else natural? chars

/-- A decimal fraction: its digits, and the power of ten to multiply them with. -/
structure Fraction where
  digits : Nat
  exponent : Int

/-- Digits with an optional point and an optional exponent. -/
def fraction? (chars : List Char) : Option Fraction := do
  let mantissa := chars.takeWhile fun c => c != 'e' && c != 'E'
  let exponent ←
    match chars.drop mantissa.length with
    | [] => some 0
    | _ :: rest =>
      let (negative, digits) := signed rest
      (natural? digits).map fun n => if negative then -(n : Int) else (n : Int)
  let whole := mantissa.takeWhile (· != '.')
  let places := (mantissa.drop whole.length).drop 1
  if whole.isEmpty && places.isEmpty then none
  else
    let w ← optionalNatural? whole
    let p ← optionalNatural? places
    let count := countDigits places
    return ⟨w * Nat.pow 10 count + p, exponent - count⟩

inductive Reading where
  | infinite
  | undefined
  | finite (fraction : Fraction)

/-- A scalar: a decimal fraction, an infinity or the undefined number, with a sign. -/
def scalar? (text : String) : Option (Bool × Reading) := do
  let (negative, chars) := signed (Text.trim text.toList)
  let word := String.ofList (chars.map Char.toLower)
  if word = "inf" || word = "infinity" then return (negative, .infinite)
  else if word = "nan" then return (negative, .undefined)
  else
    let fraction ← fraction? chars
    return (negative, .finite fraction)

end Multigrad.Decimal
