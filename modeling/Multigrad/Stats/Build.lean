import Multigrad.Stats.Basic
import Multigrad.Text.Camel
import Multigrad.Value.Field
import Multigrad.Value.Grid
import Multigrad.Counters

/-!
# Building and changing run statistics

Statistics are read from a record whose entries may use either name of a field. A change of a field
is checked like its first value.
-/

namespace Multigrad.Stats

inductive Failure where
  | faults (faults : List Fault)
  | mishap (mishap : Mishap)
deriving DecidableEq, Repr

/-- What is given for a field and the key it came under; the second name of the field goes first. -/
def given? (data : Fields Float) (name : String) : Option (String × Value Float) :=
  let second := Text.camelCase name
  match data.get? second with
  | some value => some (second, value)
  | none => (data.get? name).map (name, ·)

def required (data : Fields Float) (name : String) (read : Value Float → Field.Result α) :
    Checked α :=
  match given? data name with
  | some (key, value) => Checked.located key (read value)
  | none => .error [⟨Text.camelCase name, .missing, none⟩]

def optional (data : Fields Float) (name : String) (read : Value Float → Field.Result α)
    (default : α) : Checked α :=
  match given? data name with
  | some (key, value) => Checked.located key (read value)
  | none => .ok default

def readStatus : Value Float → Field.Result Status
  | .text s =>
    match Status.ofName? s with
    | some status => .ok status
    | none => .error .choice
  | _ => .error .choice

/-- Statistics from the entries of a record; entries of other names are ignored. -/
def build (data : Fields Float) : Checked (Stats Float) := do
  let (status, solution, averagedSolution, objective, gradientNorm, elapsedTime, iterations,
      counters, solverSpecific) ←
    (required data "status" readStatus).and <|
    (required data "solution" Field.vector).and <|
    (required data "averaged_solution" Field.vector).and <|
    (optional data "objective" Field.real Double.undefined).and <|
    (optional data "gradient_norm" Field.real Double.undefined).and <|
    (optional data "elapsed_time" Field.duration 0.0).and <|
    (optional data "iter" Field.natural 0).and <|
    (optional data "counters" Field.record []).and <|
    optional data "solver_specific" Field.record []
  return { status, solution, averagedSolution, objective, gradientNorm, elapsedTime, iterations,
           counters, solverSpecific }

/-- Statistics with a new value of a field, which goes by its first name alone. -/
def change (stats : Stats Float) (name : String) (value : Value Float) :
    Field.Result (Stats Float) :=
  match name with
  | "status" => (readStatus value).map fun status => { stats with status }
  | "solution" => (Field.vector value).map fun solution => { stats with solution }
  | "averaged_solution" =>
    (Field.vector value).map fun averagedSolution => { stats with averagedSolution }
  | "objective" => (Field.real value).map fun objective => { stats with objective }
  | "gradient_norm" => (Field.real value).map fun gradientNorm => { stats with gradientNorm }
  | "elapsed_time" => (Field.duration value).map fun elapsedTime => { stats with elapsedTime }
  | "iter" => (Field.natural value).map fun iterations => { stats with iterations }
  | "counters" => (Field.record value).map fun counters => { stats with counters }
  | "solver_specific" =>
    (Field.record value).map fun solverSpecific => { stats with solverSpecific }
  | _ => .error .noAttribute

/-- Assigns a field; the status message follows from the status and cannot be assigned. -/
def assign (stats : Stats Float) (name : String) (value : Value Float) :
    Except Failure (Stats Float) :=
  if name = "status_message" then .error (.mishap .noAttribute)
  else (Checked.located name (stats.change name value)).mapError .faults

/-! ### Entries of the solutions -/

/-- Replaces an entry of a vector; negative indices count from the end. -/
def writeEntry (entries : List Float) (index : Int) (value : Value Float) :
    Except Mishap (List Float) :=
  match Counters.position? entries.length index with
  | none => .error .badIndex
  | some position =>
    match value with
    | .list _ => .error .malformed
    | value => do
      let entry ← value.entry?
      return entries.set position entry

def write (stats : Stats Float) (name : String) (index : Int) (value : Value Float) :
    Except Mishap (Stats Float) :=
  match name with
  | "solution" =>
    (writeEntry stats.solution index value).map fun solution => { stats with solution }
  | "averaged_solution" =>
    (writeEntry stats.averagedSolution index value).map fun averagedSolution =>
      { stats with averagedSolution }
  | _ => .error .wrongType

end Multigrad.Stats
