import Multigrad.Solver.Instance
import Multigrad.Value.Equality

/-!
# The registry of solvers

Solver classes by short name, in the order of their registration. The first class of a short name
stays; it makes the solvers that descriptions ask for.
-/

namespace Multigrad

/-- Classes under their keys. -/
abbrev Registry := List (Value Float × SolverClass Float)

namespace Registry

inductive Failure where
  | noSolverClass
  | noShortName
  | noName
  /-- A record without the short name of a solver. -/
  | nothingNamed (description : Fields Float)
  | invalid (description : Value Float)
  | unknown (key : Value Float)
  | mishap (mishap : Mishap)
  /-- What the class of a solver raises when it is called, or its solver when it is configured. -/
  | raised (raised : Raised)

def Failure.message? : Failure → Option String
  | .noSolverClass => some "Solver must be a subclass of SolverBase."
  | .noShortName => some "Solver must have a 'short_name' attribute."
  | .noName => some "Solver must have a 'name' attribute."
  | .nothingNamed description =>
    some ("No 'solver' given in solver description: " ++ (Value.record description).shown)
  | .invalid description => some ("Invalid solver description: " ++ description.shown)
  | .unknown _ => none
  | .mishap _ => none
  | .raised _ => none

def initial : Registry := [(.text Settings.solverShortName, .descent)]

def find? (registry : Registry) (key : Value Float) : Option (SolverClass Float) :=
  (List.find? (fun entry => Value.equal entry.1 key) registry).map (·.2)

def isKey : Value Float → Bool
  | .list _ => false
  | .record _ => false
  | .array _ _ => false
  | _ => true

/-- A name that has to be given; null is none. -/
def required (absent : Failure) : Option (Value Float) → Except Failure (Value Float)
  | none => .error absent
  | some .null => .error absent
  | some name => .ok name

/-- The short name of a class that can be registered. -/
def keyOf (solverClass : SolverClass Float) : Except Failure (Value Float) :=
  if solverClass.foundation = .other then .error .noSolverClass
  else do
    let key ← required .noShortName solverClass.shortName
    let _ ← required .noName solverClass.name
    if isKey key then .ok key else .error (.mishap .wrongType)

/-- Registers a class, unless there is one of its short name already. -/
def register (registry : Registry) (solverClass : SolverClass Float) :
    Except Failure (Registry × Option (Warning Float)) := do
  let key ← keyOf solverClass
  if (registry.find? key).isSome then return (registry, some (.alreadyRegistered key))
  else return (registry ++ [(key, solverClass)], none)

/-! ### Solvers from descriptions -/

/-- What is noted while a solver is made. -/
inductive Event where
  | creating (name : Value Float)
  | assigned (assignment : Assignment Float)

variable {Solver : Type} (behaviour : Behaviour Solver)

/-- A new solver of the class under a key. -/
def create (registry : Registry) (key : Value Float) : Except Failure Solver :=
  if isKey key then
    match registry.find? key with
    | some solverClass => (behaviour.call solverClass).mapError .raised
    | none => .error (.unknown key)
  else .error (.mishap .wrongType)

/-- A new solver with the properties of a description; the short name stands under `solver`. -/
def createConfigured (registry : Registry) (description : Fields Float) :
    Except Failure Solver × List Event :=
  match (description.get? "solver").getD .null with
  | .null => (.error (.nothingNamed description), [])
  | key =>
    match registry.create behaviour key with
    | .error failure => (.error failure, [.creating key])
    | .ok solver =>
      let configured := behaviour.configure solver (description.erase "solver")
      (configured.result.mapError .raised,
        .creating key :: configured.assignments.map .assigned)

/-- The solver that a description asks for: a short name, or a record with one. -/
def get (registry : Registry) (description : Value Float) :
    Except Failure Solver × List Event :=
  match description with
  | .text name => (registry.create behaviour (.text name), [])
  | .record entries => registry.createConfigured behaviour entries
  | description => (.error (.invalid description), [])

end Registry

end Multigrad
