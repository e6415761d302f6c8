import Multigrad.Value.Integer

/-!
# Fields of a checked record

What a field of a record accepts, and the fault it reports otherwise. Numbers and flags are also
read from texts, integers from whole doubles, flags from zero and one.
-/

namespace Multigrad

inductive FaultKind where
  | missing
  | value
  | intFromFloat
  | intText
  | intType
  | finiteNumber
  | floatText
  | floatType
  | flagText
  | flagType
  | textType
  | recordType
  | choice
  | tooSmall
  | frozen
  | noAttribute
  | noRecord
deriving DecidableEq, Repr

/-- A fault, the place it was found at, and what the library has to say about it. -/
structure Fault where
  place : String
  kind : FaultKind
  note : Option String := none
deriving DecidableEq, Repr

namespace Field

/-- A field that holds a value, or the fault that it reports. -/
abbrev Result (α : Type) := Except FaultKind α

def int : Value Float → Result Int
  | .flag b => .ok (if b then 1 else 0)
  | .int n => .ok n
  | .real r =>
    match Double.parts? r with
    | some parts => if parts.isInteger then .ok parts.truncate else .error .intFromFloat
    | none => .error .finiteNumber
  | .text s =>
    match Decimal.wholeNumber? s with
    | some n => .ok n
    | none => .error .intText
  | _ => .error .intType

def real : Value Float → Result Float
  | .flag b => .ok (if b then 1.0 else 0.0)
  | .int n => (Scalar.ofInt? n).mapError fun _ => .floatType
  | .real r => .ok r
  | .text s =>
    match Double.ofText? s with
    | some r => .ok r
    | none => .error .floatText
  | _ => .error .floatType

def trueWords : List String := ["1", "true", "t", "yes", "y", "on"]

def falseWords : List String := ["0", "false", "f", "no", "n", "off"]

def flag : Value Float → Result Bool
  | .flag b => .ok b
  | .int n => if n = 1 then .ok true else if n = 0 then .ok false else .error .flagText
  | .real r => if r == 1.0 then .ok true else if r == 0.0 then .ok false else .error .flagType
  | .text s =>
    let word := String.ofList (s.toList.map Char.toLower)
    if trueWords.contains word then .ok true
    else if falseWords.contains word then .ok false
    else .error .flagText
  | _ => .error .flagType

def text : Value Float → Result String
  | .text s => .ok s
  | _ => .error .textType

def record : Value Float → Result (Fields Float)
  | .record entries => .ok entries
  | _ => .error .recordType

/-- Numbers that a vector of doubles takes without being told to, and whether they are doubles
already. Integers have to fit into a machine word. -/
def plainNumber? : Value Float → Option (Float × Bool)
  | .flag b => some (if b then 1.0 else 0.0, false)
  | .int n =>
    if -0x8000000000000000 ≤ n ∧ n < 0x10000000000000000 then some (Double.ofInt n, false)
    else none
  | .real r => some (r, true)
  | _ => none

/-- A vector of doubles: an array of them, an empty list, or a list of numbers with a double among
them. -/
def vector : Value Float → Result (List Float)
  | .array [_] (.reals entries) => .ok entries
  | .list items =>
    match items.mapM plainNumber? with
    | some entries =>
      if entries.isEmpty || entries.any (·.2) then .ok (entries.map (·.1)) else .error .value
    | none => .error .value
  | _ => .error .value

/-- A number that must not be negative; what is no number is too small as well. -/
def atLeastZero (less : α → Bool) (result : Result α) : Result α := do
  let a ← result
  if less a then .ok a else .error .tooSmall

def natural (value : Value Float) : Result Nat :=
  (atLeastZero (fun n => decide (0 ≤ n)) (int value)).map Int.toNat

def duration (value : Value Float) : Result Float :=
  atLeastZero (fun r => Scalar.atMost 0.0 r) (real value)

end Field

/-- A reading that reports all its faults and not only the first. -/
abbrev Checked (α : Type) := Except (List Fault) α

namespace Checked

/-- Names the place of a field's fault. -/
def located (place : String) (result : Field.Result α) : Checked α :=
  result.mapError fun kind => [⟨place, kind, none⟩]

/-- Two readings; the faults of the first come first. -/
def and : Checked α → Checked β → Checked (α × β)
  | .ok a, .ok b => .ok (a, b)
  | .ok _, .error faults => .error faults
  | .error faults, .ok _ => .error faults
  | .error first, .error second => .error (first ++ second)

end Checked

end Multigrad
