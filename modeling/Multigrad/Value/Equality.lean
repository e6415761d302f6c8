import Multigrad.Value.Basic
import Multigrad.Value.Grid
import Multigrad.Double.Basic

/-!
# Equality of values

Numbers are equal by value, whatever their kind; a flag counts as zero or one. Lists are equal
member by member, records whatever the order of their keys. An array equals whatever has its shape
and its entries; integers that are compared with the entries of an array of doubles are rounded.
-/

namespace Multigrad

namespace Value

/-- The number that a value stands for in a comparison. -/
def numeric? : Value Float → Option (Number Float)
  | .flag b => some (.int (if b then 1 else 0))
  | .int n => some (.int n)
  | .real r => some (.real r)
  | _ => none

mutual

def equal : Value Float → Value Float → Bool
  | .null, .null => true
  | .text s, .text t => s == t
  | .list items, .list others => equalItems items others
  | .record entries, .record others =>
    entries.length == others.length && equalEntries entries others
  | a, b =>
    match a.numeric?, b.numeric? with
    | some m, some n => m.same n
    | _, _ => false

def equalItems : List (Value Float) → List (Value Float) → Bool
  | [], [] => true
  | a :: as, b :: bs => equal a b && equalItems as bs
  | _, _ => false

/-- Whether every entry has an equal one under its key in a second record. -/
def equalEntries : List (String × Value Float) → List (String × Value Float) → Bool
  | [], _ => true
  | (key, a) :: rest, others =>
    (match others.lookup key with
      | some b => equal a b
      | none => false) && equalEntries rest others

end

/-! ### Arrays -/

/-- How an array keeps its entries. -/
inductive Storage where
  /-- As machine integers. -/
  | words
  | doubles
  /-- Each as it is, because one of them is no number of the machine. -/
  | loose
deriving DecidableEq, Repr

/-- An integer that a machine word holds with a sign. -/
def isSigned : Value Float → Bool
  | .int n => decide (-0x8000000000000000 ≤ n) && decide (n < 0x8000000000000000)
  | _ => false

/-- An integer that a machine word only holds without a sign. -/
def isUnsigned : Value Float → Bool
  | .int n => decide (0x8000000000000000 ≤ n) && decide (n < 0x10000000000000000)
  | _ => false

def isReal : Value Float → Bool
  | .real _ => true
  | _ => false

def isLoose : Value Float → Bool
  | .flag _ => false
  | .real _ => false
  | value => !(value.isSigned || value.isUnsigned)

/-- No word holds integers with and without a sign together; doubles do. -/
def Storage.ofEntries (entries : List (Value Float)) : Storage :=
  if entries.any isLoose then .loose
  else if entries.any isReal || (entries.any isSigned && entries.any isUnsigned) then .doubles
  else .words

/-- How a value keeps its entries once it is an array. -/
def storage : Value Float → Storage
  | .array _ (.reals _) => .doubles
  | .array _ (.ints _) => .words
  | value => .ofEntries value.leaves

/-- How the entries of two arrays are kept for a comparison. -/
def Storage.join : Storage → Storage → Storage
  | .loose, _ => .loose
  | _, .loose => .loose
  | .words, .words => .words
  | _, _ => .doubles

/-- Integers among doubles are rounded. -/
def Storage.convert : Storage → Number Float → Number Float
  | .doubles, .int n => .real (Double.ofInt n)
  | _, number => number

def sameEntry (storage : Storage) (a b : Value Float) : Bool :=
  match a.numeric?, b.numeric? with
  | some m, some n => (storage.convert m).same (storage.convert n)
  | _, _ => false

def sameEntries (storage : Storage) : List (Value Float) → List (Value Float) → Bool
  | [], [] => true
  | a :: as, b :: bs => sameEntry storage a b && sameEntries storage as bs
  | _, _ => false

/-- Equality of an array with another value, entry by entry. -/
def equalArrays (a b : Value Float) : Bool :=
  match a.shape?, b.shape? with
  | some shape, some other =>
    shape == other && sameEntries (a.storage.join b.storage) a.leaves b.leaves
  | _, _ => false

def isArray : Value Float → Bool
  | .array _ _ => true
  | _ => false

def isList : Value Float → Bool
  | .list _ => true
  | _ => false

/-- Equality of two values that are not both records. A list is equal to itself, whatever is in it:
`shared` says that the two values are one and the same. An undefined number that two different lists
have in common, as one and the same object, is left out: it is compared as a number. -/
def equalLeaves (shared : Bool) (a b : Value Float) : Bool :=
  if a.isArray || b.isArray then equalArrays a b
  else (shared && a.isList) || equal a b

end Value

end Multigrad
