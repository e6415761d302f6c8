import Multigrad.Scalar

/-!
# Values

Loosely typed input: what a problem description, an option or a point may be before anybody has
looked at it. A record keeps its entries in order.
-/

namespace Multigrad

/-- The entries of an array, row by row. -/
inductive Entries (R : Type) where
  | reals (entries : List R)
  | ints (entries : List Int)

inductive Value (R : Type) where
  | null
  | flag (b : Bool)
  | int (n : Int)
  | real (r : R)
  | text (s : String)
  | list (items : List (Value R))
  | record (entries : List (String × Value R))
  | array (shape : List Nat) (entries : Entries R)

abbrev Fields (R : Type) := List (String × Value R)

variable {R : Type}

namespace Fields

def get? (fields : Fields R) (key : String) : Option (Value R) := fields.lookup key

def has (fields : Fields R) (key : String) : Bool := (get? fields key).isSome

def keys (fields : Fields R) : List String := fields.map (·.1)

/-- Replaces the value of a key in place, or adds the key at the end. -/
def set : Fields R → String → Value R → Fields R
  | [], key, value => [(key, value)]
  | (k, v) :: rest, key, value =>
    if k == key then (key, value) :: rest else (k, v) :: set rest key value

def erase (fields : Fields R) (key : String) : Fields R := fields.filter (·.1 != key)

end Fields

namespace Value

/-- What arithmetic accepts: flags count as zero and one. -/
def number? : Value R → Except Mishap (Number R)
  | .int n => .ok (.int n)
  | .real r => .ok (.real r)
  | .flag b => .ok (.int (if b then 1 else 0))
  | _ => .error .wrongType

def ofNumber : Number R → Value R
  | .int n => .int n
  | .real r => .real r

/-- The scalar that arithmetic with other scalars uses. -/
def real? [Scalar R] (value : Value R) : Except Mishap R := value.number? >>= Number.toReal

def isText (value : Value R) (s : String) : Bool :=
  match value with
  | .text t => t == s
  | _ => false

def isNull : Value R → Bool
  | .null => true
  | _ => false

def ofList (entries : List R) : Value R := .array [entries.length] (.reals entries)

def ofInts (entries : List Int) : Value R := .array [entries.length] (.ints entries)

def ofNats (entries : List Nat) : Value R := ofInts (entries.map Int.ofNat)

end Value

end Multigrad
