import Multigrad.Value.Basic
import Multigrad.Text.Blank

/-!
# Evaluation counters

How often the parts of a model were evaluated. Four counters have an entry for each objective, the
others count evaluations of the whole problem.
-/

namespace Multigrad

inductive ObjectiveCounter where
  | obji
  | gradi
  | hessi
  | hiprod
deriving DecidableEq, Repr

inductive ProblemCounter where
  | obj
  | grad
  | cons
  | jac
  | jprod
  | jtprod
  | hess
  | hprod
  | jhprod
deriving DecidableEq, Repr

namespace ObjectiveCounter

def all : List ObjectiveCounter := [obji, gradi, hessi, hiprod]

def name : ObjectiveCounter → String
  | obji => "neval_obji"
  | gradi => "neval_gradi"
  | hessi => "neval_hessi"
  | hiprod => "neval_hiprod"

end ObjectiveCounter

namespace ProblemCounter

def all : List ProblemCounter := [obj, grad, cons, jac, jprod, jtprod, hess, hprod, jhprod]

def name : ProblemCounter → String
  | obj => "neval_obj"
  | grad => "neval_grad"
  | cons => "neval_cons"
  | jac => "neval_jac"
  | jprod => "neval_jprod"
  | jtprod => "neval_jtprod"
  | hess => "neval_hess"
  | hprod => "neval_hprod"
  | jhprod => "neval_jhprod"

end ProblemCounter

inductive CounterName where
  | objective (counter : ObjectiveCounter)
  | problem (counter : ProblemCounter)
  | unknown

def CounterName.ofText (text : String) : CounterName :=
  match ObjectiveCounter.all.find? (·.name == text) with
  | some counter => .objective counter
  | none =>
    match ProblemCounter.all.find? (·.name == text) with
    | some counter => .problem counter
    | none => .unknown

structure Counters where
  nobj : Nat
  obji : List Nat
  gradi : List Nat
  hessi : List Nat
  hiprod : List Nat
  obj : Nat
  grad : Nat
  cons : Nat
  jac : Nat
  jprod : Nat
  jtprod : Nat
  hess : Nat
  hprod : Nat
  jhprod : Nat
deriving DecidableEq, Repr

namespace Counters

inductive Failure where
  | noIndex (name : String)
  | unknown (name : String)
  | mishap (mishap : Mishap)
deriving DecidableEq, Repr

def Failure.message? : Failure → Option String
  | .noIndex name => some s!"Counter '{name}' requires an objective index"
  | .unknown name => some s!"Unknown counter '{name}'"
  | .mishap _ => none

def empty (nobj : Nat) : Counters where
  nobj := nobj
  obji := List.replicate nobj 0
  gradi := List.replicate nobj 0
  hessi := List.replicate nobj 0
  hiprod := List.replicate nobj 0
  obj := 0
  grad := 0
  cons := 0
  jac := 0
  jprod := 0
  jtprod := 0
  hess := 0
  hprod := 0
  jhprod := 0

def ofSize? (nobj : Int) : Except Mishap Counters :=
  if nobj < 0 then .error .malformed else .ok (empty nobj.toNat)

def reset (counters : Counters) : Counters := empty counters.nobj

def entries (counters : Counters) : ObjectiveCounter → List Nat
  | .obji => counters.obji
  | .gradi => counters.gradi
  | .hessi => counters.hessi
  | .hiprod => counters.hiprod

def count (counters : Counters) : ProblemCounter → Nat
  | .obj => counters.obj
  | .grad => counters.grad
  | .cons => counters.cons
  | .jac => counters.jac
  | .jprod => counters.jprod
  | .jtprod => counters.jtprod
  | .hess => counters.hess
  | .hprod => counters.hprod
  | .jhprod => counters.jhprod

def bump (counters : Counters) (counter : ObjectiveCounter) (index : Nat) : Counters :=
  match counter with
  | .obji => { counters with obji := counters.obji.modify index (· + 1) }
  | .gradi => { counters with gradi := counters.gradi.modify index (· + 1) }
  | .hessi => { counters with hessi := counters.hessi.modify index (· + 1) }
  | .hiprod => { counters with hiprod := counters.hiprod.modify index (· + 1) }

def tick (counters : Counters) : ProblemCounter → Counters
  | .obj => { counters with obj := counters.obj + 1 }
  | .grad => { counters with grad := counters.grad + 1 }
  | .cons => { counters with cons := counters.cons + 1 }
  | .jac => { counters with jac := counters.jac + 1 }
  | .jprod => { counters with jprod := counters.jprod + 1 }
  | .jtprod => { counters with jtprod := counters.jtprod + 1 }
  | .hess => { counters with hess := counters.hess + 1 }
  | .hprod => { counters with hprod := counters.hprod + 1 }
  | .jhprod => { counters with jhprod := counters.jhprod + 1 }

/-- The position of an index; negative indices count from the end. -/
def position? (size : Nat) (index : Int) : Option Nat :=
  if 0 ≤ index ∧ index < size then some index.toNat
  else if -(size : Int) ≤ index ∧ index < 0 then some (index + size).toNat
  else none

/-- Adds one to a counter; those with an entry for each objective need an index, the others ignore
it. -/
def increment (counters : Counters) (name : String) (index : Option Int) :
    Except Failure Counters :=
  match CounterName.ofText name with
  | .objective counter =>
    match index with
    | none => .error (.noIndex name)
    | some index =>
      match position? counters.nobj index with
      | some position => .ok (counters.bump counter position)
      | none => .error (.mishap .badIndex)
  | .problem counter => .ok (counters.tick counter)
  | .unknown => .error (.unknown name)

/-- What is read from a counter: one number, or an entry for each objective. -/
inductive Reading where
  | single (n : Nat)
  | each (entries : List Nat)
deriving DecidableEq, Repr

/-- Reads a counter: all entries of one that has them, unless an index is given. -/
def get (counters : Counters) (name : String) (index : Option Int) : Except Failure Reading :=
  match CounterName.ofText name with
  | .objective counter =>
    match index with
    | none => .ok (.each (counters.entries counter))
    | some index =>
      match (position? counters.nobj index).bind ((counters.entries counter)[·]?) with
      | some n => .ok (.single n)
      | none => .error (.mishap .badIndex)
  | .problem counter => .ok (.single (counters.count counter))
  | .unknown => .error (.unknown name)

def problemSum (counters : Counters) : Nat :=
  (ProblemCounter.all.map counters.count).foldr (· + ·) 0

def objectiveSum (counters : Counters) : Nat :=
  (ObjectiveCounter.all.map fun counter =>
    (counters.entries counter).foldr (· + ·) 0).foldr (· + ·) 0

def total (counters : Counters) : Nat := counters.problemSum + counters.objectiveSum

/-- All counters by name, those with entries for each objective first. -/
def snapshot (counters : Counters) : List (String × Reading) :=
  ObjectiveCounter.all.map (fun counter => (counter.name, .each (counters.entries counter))) ++
    ProblemCounter.all.map fun counter => (counter.name, .single (counters.count counter))

def toFields {R : Type} (counters : Counters) : Fields R :=
  counters.snapshot.map fun
    | (name, .each entries) => (name, .list (entries.map fun n => .int (Int.ofNat n)))
    | (name, .single n) => (name, .int n)

def Reading.text : Reading → String
  | .single n => toString n
  | .each entries => "[" ++ ", ".intercalate (entries.map toString) ++ "]"

def text (counters : Counters) : String :=
  "\n".intercalate ("  Counters:" :: counters.snapshot.map fun (name, reading) =>
    "  " ++ Text.padLeft 14 name ++ ": " ++ reading.text)

end Counters

end Multigrad
