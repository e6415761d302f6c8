import Multigrad.Stats.Basic
import Multigrad.Value.Notation
import Multigrad.Text.Blank

/-!
# Run statistics as text

A line for each field. The entries of a vector are equally wide, with as many places before and
behind the point.
-/

namespace Multigrad.Stats

/-- The texts before and after the point of an entry. -/
def aroundPoint (x : Float) : String × String :=
  match Double.parts? x with
  | some parts =>
    let (whole, fraction) := Double.shortestAroundPoint parts
    (Double.withSign parts.negative (String.ofList whole), String.ofList fraction)
  | none => (Double.plain x, "")

def widest (texts : List String) : Nat := (texts.map String.length).foldl max 0

/-- The entries between brackets, all as wide before and behind the point as the widest one. -/
def vectorText (entries : List Float) : String :=
  let parts := entries.map aroundPoint
  let before := widest (parts.map (·.1))
  let behind := widest (parts.map (·.2))
  let texts := parts.map fun (whole, fraction) =>
    Text.padLeft before whole ++ "." ++ Text.padRight behind fraction
  "[" ++ " ".intercalate texts ++ "]"

def text (stats : Stats Float) : String :=
  "\n".intercalate
    (["Execution stats: " ++ stats.status.message,
      "  solution: " ++ vectorText stats.solution,
      "  averaged solution: " ++ vectorText stats.averagedSolution,
      "  initial objective: " ++ Double.general stats.objective,
      "  initial gradient norm: " ++ Double.general stats.gradientNorm,
      "  iterations: " ++ toString stats.iterations,
      "  elapsed time: " ++ Double.general stats.elapsedTime ++ " s"] ++
      stats.solverSpecific.map fun (key, value) => "  " ++ key ++ ": " ++ value.shown)

end Multigrad.Stats
