import Multigrad.Random.Generator
import Multigrad.Solver.Settings

/-!
# Visiting orders

Every iteration visits the objectives in an order of its own. Orders come from a list that is gone
through again and again, or from a random generator that every run starts anew.
-/

namespace Multigrad

/-- A source of orders: what a run does to it at its start, and how it draws the next order. -/
structure OrderSource (σ : Type) where
  start : σ → Except Mishap σ
  next : σ → Except Mishap (List Int × σ)

inductive Orders (R : Type) where
  /-- A list of orders, of which so many have been used. -/
  | listed (orders : List (List Int)) (used : Nat)
  | seeded (seed : Value R) (generator : Option Random.Generator)
  /-- Something that gives no orders. -/
  | unusable

namespace Orders

variable {R : Type}

def index? : Value R → Option Int
  | .int n => some n
  | _ => none

def order? : Value R → Option (List Int)
  | .list items => items.mapM index?
  | _ => none

/-- The value that stands for a list of orders among the properties of a solver. -/
def listValue (orders : List (Value R)) : Value R := .record [("orders", .list orders)]

/-- The orders that settings choose, of which so many have been used. -/
def ofSettings (settings : Settings R) (used : Nat) : Orders R :=
  match settings.rng with
  | .null => .seeded settings.seed none
  | .record [("orders", .list orders)] =>
    match orders.mapM order? with
    | some orders => .listed orders used
    | none => .unusable
  | _ => .unusable

/-- The generator of a seed; without one the seed is zero. -/
def generator? (seed : Value R) : Except Mishap Random.Generator :=
  match seed with
  | .null => .ok (Random.Generator.ofSeed [0])
  | seed => (Random.seedWords seed).map Random.Generator.ofSeed

def start : Orders R → Except Mishap (Orders R)
  | seeded seed _ => (generator? seed).map fun generator => seeded seed (some generator)
  | orders => .ok orders

def next (n : Nat) : Orders R → Except Mishap (List Int × Orders R)
  | listed orders used =>
    match orders[used % orders.length]? with
    | some order => .ok (order, listed orders (used + 1))
    | none => .error .zeroDivision
  | seeded seed (some generator) =>
    let (order, generator) := generator.permutation n
    .ok (order, seeded seed (some generator))
  | seeded _ none => .error .noAttribute
  | unusable => .error .noAttribute

def source (n : Nat) : OrderSource (Orders R) := ⟨start, next n⟩

def used : Orders R → Nat
  | listed _ used => used
  | _ => 0

end Orders

end Multigrad
