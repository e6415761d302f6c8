import Multigrad.Value.Field
import Multigrad.Value.Notation
import Multigrad.ObjectiveType

/-!
# Failures of a problem description

Why a description of a problem is refused, and the words for it.
-/

namespace Multigrad.Meta

inductive Failure where
  /-- The number of variables or of objectives is not given. -/
  | noDimensions
  | nonsense (nvar nobj ncon : Int)
  | notVector (key : String) (shape : List Nat)
  | length (key : String) (actual : Nat) (expected : Int)
  | outside (key : String) (ncon : Nat) (indices : List Int)
  | duplicate (key : String) (indices : List Int)
  | objectiveType (value : Value Float)
  | unreadable (mishap : Mishap)
  | faults (faults : List Fault)
  | noDescription (value : Value Float)

def indicesText (indices : List Int) : String := Value.listText (indices.map toString)

def typeNames : String :=
  Value.listText (ObjectiveType.all.map fun objective => Text.quoted objective.name)

/-- The words for a failure, where they are words of this library. Integers are written out in full:
a limit on the digits of a numeral, which a runtime may set, is left out. -/
def Failure.message? : Failure → Option String
  | .noDimensions => some "Both 'nvar' and 'nobj' need to be given"
  | .nonsense nvar nobj ncon =>
    some s!"Nonsensical dimensions: nvar={nvar}, nobj={nobj}, ncon={ncon}"
  | .notVector key shape =>
    some s!"'{key}' must be one-dimensional, got shape {Value.shapeText shape}"
  | .length key actual expected =>
    some s!"'{key}' has length {actual}, but should have length {expected}"
  | .outside key ncon indices =>
    some s!"'{key}' contains indices outside of [0, {ncon}): {indicesText indices}"
  | .duplicate key indices => some s!"'{key}' contains duplicate indices: {indicesText indices}"
  | .objectiveType value =>
    some ("Invalid objective type " ++ value.spelled ++
      ". The objective types should be chosen from " ++ typeNames)
  | .noDescription value => some ("Invalid metadata description: " ++ value.shown)
  | .unreadable _ => none
  | .faults _ => none

/-- A value of the right kind that cannot be read makes the whole description invalid. -/
def Failure.ofMishap : Mishap → Failure
  | .malformed => .faults [⟨"", .value, none⟩]
  | mishap => .unreadable mishap

/-- There is no array of so many entries. -/
def Failure.tooLong : Failure := .ofMishap .malformed

/-- What an undefined bound is refused with. -/
def boundNote (key : String) : String :=
  s!"'{key}' must not contain NaN, use +/-inf for absent bounds"

def Failure.undefinedBound (key : String) : Failure :=
  .faults [⟨"", .value, some (boundNote key)⟩]

end Multigrad.Meta
