import Multigrad.Meta.Build
import Multigrad.Meta.Description
import Multigrad.Text.Camel
import Multigrad.Value.TypedRecord

/-!
# The fields of metadata

Metadata written out as a record, from which it can be built again, access to its fields and derived
properties by name, and equality.
-/

namespace Multigrad.Meta

def toFields (problem : Meta Float) : Fields Float :=
  [("nobj", .int problem.nobj),
   ("weights", Value.ofList problem.weights),
   ("objtypes", .list (problem.objtypes.map fun objective => .text objective.name)),
   ("nnzhi", Value.ofNats problem.nnzhi),
   ("nvar", .int problem.nvar),
   ("x0", Value.ofList problem.x0),
   ("lvar", Value.ofList problem.lvar),
   ("uvar", Value.ofList problem.uvar),
   ("ncon", .int problem.ncon),
   ("y0", Value.ofList problem.y0),
   ("lcon", Value.ofList problem.lcon),
   ("ucon", Value.ofList problem.ucon),
   ("nnzo", .int problem.nnzo),
   ("nnzj", .int problem.nnzj),
   ("nnzh", .int problem.nnzh),
   ("lin", Value.ofNats problem.lin),
   ("nln", Value.ofNats problem.nln),
   ("nnet", Value.ofNats problem.nnet),
   ("lnet", Value.ofNats problem.lnet),
   ("nlin", .int problem.nlin),
   ("nnln", .int problem.nnln),
   ("nnnet", .int problem.nnnet),
   ("nlnet", .int problem.nlnet),
   ("minimize", .flag problem.minimize),
   ("nlo", .int problem.nlo),
   ("islp", .flag problem.islp),
   ("name", .text problem.name)]

/-- The index sets of the variables (`i`) and of the constraints (`j`). -/
def indexSets (problem : Meta Float) : Fields Float :=
  let xs := problem.variableSets
  let cs := problem.constraintSets
  [("ifix", Value.ofNats xs.fixed),
   ("ilow", Value.ofNats xs.lower),
   ("iupp", Value.ofNats xs.upper),
   ("irng", Value.ofNats xs.range),
   ("ifree", Value.ofNats xs.free),
   ("iinf", Value.ofNats xs.infeasible),
   ("jfix", Value.ofNats cs.fixed),
   ("jlow", Value.ofNats cs.lower),
   ("jupp", Value.ofNats cs.upper),
   ("jrng", Value.ofNats cs.range),
   ("jfree", Value.ofNats cs.free),
   ("jinf", Value.ofNats cs.infeasible)]

def predicates (problem : Meta Float) : Fields Float :=
  [("has_bounds", .flag problem.hasBounds),
   ("bound_constrained", .flag problem.boundConstrained),
   ("unconstrained", .flag problem.unconstrained),
   ("linearly_constrained", .flag problem.linearlyConstrained),
   ("equality_constrained", .flag problem.equalityConstrained),
   ("inequality_constrained", .flag problem.inequalityConstrained)]

def properties (problem : Meta Float) : Fields Float :=
  problem.toFields ++ problem.indexSets ++ problem.predicates

/-- What can be asked of metadata by name: a property, the record of the fields or the lines of the
description. -/
def property? (problem : Meta Float) (key : String) : Except Mishap (Value Float) :=
  match problem.properties.get? key with
  | some value => .ok value
  | none =>
    if key = "to_dict" then .ok (.record problem.toFields)
    else if key = "lines_of_description" then
      problem.lines.map fun lines => .list (lines.map .text)
    else .error .noAttribute

/-- The record of the fields; on request with the second names of the fields. -/
def toRecord (problem : Meta Float) (camel : Bool) : Fields Float :=
  if camel then problem.toFields.map fun (key, value) => (Text.camelCase key, value)
  else problem.toFields

/-- Metadata does not change: every assignment is refused. -/
def assign (_ : Meta Float) (key : String) : Failure := .faults [⟨key, .frozen, none⟩]

/-- What is compared of metadata; what is derived from the fields is not. -/
def typed (problem : Meta Float) : TypedRecord := ⟨.metadata, problem.toFields⟩

def equal (a b : Meta Float) : Bool := a.typed.equal false (.object b.typed)

def unequal (a : Meta Float) (operand : Operand) : Bool := a.typed.unequal false operand

end Multigrad.Meta
