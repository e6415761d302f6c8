import Multigrad.Solver.Settings
import Multigrad.Value.Notation

/-!
# Solver classes and solvers

A solver class has a name and a short name, which it may inherit, and a way to run. What its solvers
do is for the class to say; plain ones have properties, which hide the names of the class, and do
nothing on their own.
-/

namespace Multigrad

inductive Foundation where
  | interface
  | descent
  | other
deriving DecidableEq, Repr

/-- A class as registration sees it. -/
structure SolverClass (R : Type) where
  typeName : String
  foundation : Foundation
  name : Option (Value R)
  shortName : Option (Value R)
  runnable : Bool

namespace SolverClass

variable {R : Type}

def descent : SolverClass R where
  typeName := "StochasticGradient"
  foundation := .descent
  name := some (.text Settings.solverName)
  shortName := some (.text Settings.solverShortName)
  runnable := true

/-- A name is its own, or else that of the stochastic gradient solver; null is no name. -/
def inherited (foundation : Foundation) (own inheritable : Option (Value R)) : Option (Value R) :=
  (own.or (if foundation = .descent then inheritable else none)).filter fun name => !name.isNull

def custom (foundation : Foundation) (name shortName : Option (Value R)) (runnable : Bool) :
    SolverClass R where
  typeName := "Custom"
  foundation := foundation
  name := inherited foundation name descent.name
  shortName := inherited foundation shortName descent.shortName
  runnable := runnable || foundation == .descent

/-- The names of a class, as far as it has them. -/
def names (solverClass : SolverClass R) : Fields R :=
  (solverClass.name.map ("name", ·)).toList ++
    (solverClass.shortName.map ("short_name", ·)).toList

variable [Scalar R]

def initialProperties (solverClass : SolverClass R) : Fields R :=
  if solverClass.foundation = .descent then Settings.initialProperties
  else Settings.commonProperties

end SolverClass

/-! ### What solvers do -/

/-- What a solver class raises: an error of a known kind, or one of another class, by its name. -/
inductive Raised where
  | mishap (mishap : Mishap)
  | other (name : String)

/-- A solver after its configuration, which may have ended with an error. -/
structure Configured (Solver : Type) where
  solver : Solver
  assignments : List (Assignment Float)
  raised : Option Raised

def Configured.result {Solver : Type} (configured : Configured Solver) : Except Raised Solver :=
  match configured.raised with
  | none => .ok configured.solver
  | some raised => .error raised

/-- What solvers do when their class is called and when they are configured. Classes are written by
anybody, so this is for them to say. -/
structure Behaviour (Solver : Type) where
  classOf : Solver → SolverClass Float
  call : SolverClass Float → Except Raised Solver
  shortName : Solver → Except Raised (Value Float)
  has : Solver → String → Except Raised Bool
  assign : Solver → String → Value Float → Except Raised Solver
  /-- How a solver is configured that has a way of its own. -/
  own? : Solver → Option (Fields Float → Configured Solver)

namespace Behaviour

variable {Solver : Type} (behaviour : Behaviour Solver)

/-- What a solver warns of before a property is set. -/
def warning? (solver : Solver) (key : String) : Except Raised (Option (Warning Float)) := do
  if ← behaviour.has solver key then return none
  else return some (.unknownProperty key (← behaviour.shortName solver))

/-- Sets properties one after the other, until an error. -/
def setAll (solver : Solver) : Fields Float → Configured Solver
  | [] => ⟨solver, [], none⟩
  | (key, value) :: rest =>
    match behaviour.warning? solver key with
    | .error raised => ⟨solver, [], some raised⟩
    | .ok warning =>
      let assignment : Assignment Float := ⟨key, value, warning⟩
      match behaviour.assign solver key value with
      | .error raised => ⟨solver, [assignment], some raised⟩
      | .ok solver =>
        let configured := setAll solver rest
        { configured with assignments := assignment :: configured.assignments }

/-- Configures a solver. It goes by the name `self` itself, so no property can be given under it. -/
def configure (solver : Solver) (options : Fields Float) : Configured Solver :=
  match behaviour.own? solver with
  | some own => own options
  | none =>
    if options.has "self" then ⟨solver, [], some (.mishap .wrongType)⟩
    else behaviour.setAll solver options

end Behaviour

/-! ### Plain solvers -/

/-- A solver that does nothing on its own: a table of properties next to its class. -/
structure SolverInstance (R : Type) where
  solverClass : SolverClass R
  properties : Fields R

namespace SolverInstance

variable {R : Type}

/-- The methods of a solver of a class. -/
def methods (solverClass : SolverClass R) : List String :=
  ["configure", "solve"] ++
    if solverClass.foundation = .descent then
      ["_validate_configuration", "_get_penalty", "_update_step_size", "_exhausted_budget"]
    else []

/-- Names that every object answers to, and every class with abstract methods. -/
def commonNames : List String :=
  ["__class__", "__dict__", "__weakref__", "__module__", "__doc__", "__annotations__", "__new__",
   "__init__", "__repr__", "__str__", "__format__", "__hash__", "__eq__", "__ne__", "__lt__",
   "__le__", "__gt__", "__ge__", "__getattribute__", "__setattr__", "__delattr__", "__dir__",
   "__sizeof__", "__reduce__", "__reduce_ex__", "__subclasshook__", "__init_subclass__",
   "__abstractmethods__", "_abc_impl"]

def has (solver : SolverInstance R) (key : String) : Bool :=
  solver.properties.has key || Fields.has solver.solverClass.names key ||
    (methods solver.solverClass).contains key || commonNames.contains key

/-- Sets a property. No value is a class or a reference, and only a record is a table. -/
def assign (solver : SolverInstance R) (key : String) (value : Value R) :
    Except Mishap (SolverInstance R) :=
  if key == "__class__" then .error .wrongType
  else if key == "__weakref__" then .error .noAttribute
  else if key == "__dict__" then
    match value with
    | .record properties => .ok { solver with properties }
    | _ => .error .wrongType
  else .ok { solver with properties := solver.properties.set key value }

def new [Scalar R] (solverClass : SolverClass R) : SolverInstance R :=
  ⟨solverClass, solverClass.initialProperties⟩

/-- A property of the solver, or a name of its class. -/
def attribute? (solver : SolverInstance R) (key : String) : Except Mishap (Value R) :=
  match (solver.properties.get? key).or (Fields.get? solver.solverClass.names key) with
  | some value => .ok value
  | none => .error .noAttribute

def settings (solver : SolverInstance R) : Settings R := Settings.ofProperties solver.properties

def text (solver : SolverInstance Float) : Except Mishap String := do
  let name ← solver.attribute? "name"
  let shortName ← solver.attribute? "short_name"
  return "Solver " ++ name.shown ++ " (" ++ shortName.shown ++ ")"

/-- A class can be called when none of its methods is missing. A property in the place of a method
cannot be called. -/
def plain : Behaviour (SolverInstance Float) where
  classOf := solverClass
  call solverClass :=
    if solverClass.runnable then .ok (.new solverClass) else .error (.mishap .wrongType)
  shortName solver := (solver.attribute? "short_name").mapError .mishap
  has solver key := .ok (solver.has key)
  assign solver key value := (solver.assign key value).mapError .mishap
  own? solver :=
    if solver.properties.has "configure" then
      some fun _ => ⟨solver, [], some (.mishap .wrongType)⟩
    else none

end SolverInstance

end Multigrad
