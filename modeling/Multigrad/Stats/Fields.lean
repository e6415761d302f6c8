import Multigrad.Stats.Basic
import Multigrad.Text.Camel
import Multigrad.Value.TypedRecord

/-!
# The fields of run statistics

Statistics written out as a record, from which they can be built again, access to fields by name,
and equality.
-/

namespace Multigrad.Stats

def toFields {R : Type} (stats : Stats R) : Fields R :=
  [("status", .text stats.status.name),
   ("solution", Value.ofList stats.solution),
   ("averaged_solution", Value.ofList stats.averagedSolution),
   ("objective", .real stats.objective),
   ("gradient_norm", .real stats.gradientNorm),
   ("elapsed_time", .real stats.elapsedTime),
   ("iter", .int stats.iterations),
   ("counters", .record stats.counters),
   ("solver_specific", .record stats.solverSpecific)]

/-- The record of the fields; on request with the second names of the fields. -/
def toRecord {R : Type} (stats : Stats R) (camel : Bool) : Fields R :=
  if camel then stats.toFields.map fun (key, value) => (Text.camelCase key, value)
  else stats.toFields

/-- A field, the status message or the record of the fields. -/
def property? {R : Type} (stats : Stats R) (name : String) : Except Mishap (Value R) :=
  let properties : Fields R := stats.toFields ++
    [("status_message", .text stats.status.message), ("to_dict", .record stats.toFields)]
  match properties.get? name with
  | some value => .ok value
  | none => .error .noAttribute

/-- What is compared of statistics. -/
def typed (stats : Stats Float) : TypedRecord := ⟨.statistics, stats.toFields⟩

/-- Equality of two statistics; `shared` says that they are one and the same object. -/
def equal (shared : Bool) (a b : Stats Float) : Bool := a.typed.equal shared (.object b.typed)

def unequal (shared : Bool) (a : Stats Float) (operand : Operand) : Bool :=
  a.typed.unequal shared operand

end Multigrad.Stats
