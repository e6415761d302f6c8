import Multigrad.Value.Basic

/-!
# Objective types

The structure of a single objective.
-/

namespace Multigrad

inductive ObjectiveType where
  | linear
  | quadratic
  | general
deriving DecidableEq, Repr

namespace ObjectiveType

def all : List ObjectiveType := [linear, quadratic, general]

def name : ObjectiveType → String
  | linear => "linear"
  | quadratic => "quadratic"
  | general => "general"

def shortName : ObjectiveType → String
  | linear => "lin"
  | quadratic => "quad"
  | general => "gen"

def ofName? (text : String) : Option ObjectiveType :=
  all.find? fun objective => text == objective.name || text == objective.shortName

def ofValue? {R : Type} : Value R → Option ObjectiveType
  | .text s => ofName? s
  | _ => none

end ObjectiveType

end Multigrad
