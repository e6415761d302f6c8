import Multigrad.Solver.Registry
import Multigrad.Solver.Run

/-!
# The log

Texts of warnings, notices and failures of solvers.
-/

namespace Multigrad

inductive Level where
  | debug
  | info
deriving DecidableEq, Repr

def Level.name : Level → String
  | .debug => "DEBUG"
  | .info => "INFO"

def Number.general : Number Float → String
  | .int n => Double.general (Double.ofInt n)
  | .real r => Double.general r

/-- A number with six leading digits; what is none is shown as it is. -/
def Value.general (value : Value Float) : String :=
  match value.number? with
  | .ok number => number.general
  | .error _ => value.shown

def Warning.text : Warning Float → String
  | .unknownProperty property solver =>
    "Property " ++ property ++ " not found in Solver " ++ solver.shown ++ "!"
  | .alreadyRegistered name => "Solver '" ++ name.shown ++ "' is already registered."

def Assignment.text (assignment : Assignment Float) : String :=
  "Setting solver property " ++ assignment.property ++ " = " ++ assignment.value.shown

/-- The log entry of an event, which is there for debugging. -/
def Registry.Event.text : Registry.Event → String
  | .creating name => "Creating solver '" ++ name.shown ++ "' from dictionary"
  | .assigned assignment => assignment.text

def Registry.Event.warning? : Registry.Event → Option (Warning Float)
  | .creating _ => none
  | .assigned assignment => assignment.warning

namespace Solver

def Notice.level : Notice Float → Level
  | .starting _ _ => .debug
  | .iteration _ _ _ => .debug
  | .finished _ _ _ _ _ => .info

/-- The text of a notice; `seconds` writes the time of a run. -/
def Notice.text (seconds : Float → String) : Notice Float → String
  | .starting settings problem =>
    "Starting " ++ settings.name.shown ++ " on " ++ problem ++ ": learning_rate=" ++
      settings.learningRate.shown ++ ", step_size=" ++ settings.stepSize.general ++ ", penalty=" ++
      settings.penalty.shown ++ ", alpha=" ++ settings.alpha.general
  | .iteration number stepSize norm =>
    "Iteration " ++ toString number ++ ": step size " ++ stepSize.general ++ ", |beta| = " ++
      Double.general norm
  | .finished solver iterations status elapsed evaluations =>
    solver.shown ++ " finished after " ++ toString iterations ++ " iterations (" ++ status.name ++
      ") in " ++ seconds elapsed ++ " s, " ++ toString evaluations ++ " evaluations"

def choiceText (names : List String) : String :=
  "Choose from (" ++ ", ".intercalate (names.map Text.quoted) ++ ")"

def Failure.message? : Failure Float → Option String
  | .learningRate value =>
    some ("Unknown learning rate '" ++ value.shown ++ "'. " ++
      choiceText (LearningRate.all.map LearningRate.name))
  | .penalty value =>
    some ("Unknown penalty '" ++ value.shown ++ "'. " ++ choiceText (Penalty.all.map Penalty.name))
  | .regularization =>
    some "The 'optimal' learning rate requires a positive regularization strength alpha"
  | .evaluation failure => failure.message?
  | .mishap _ => none
  | .negativeTime => none
  | .unfinished => none

end Solver

end Multigrad
