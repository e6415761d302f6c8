import Multigrad.Value.RecordEquality

/-!
# Records of a class

Classes of records extend one another. A record equals nothing but a record of the very same class;
that a record is unequal to another object is decided apart, and there the classes that extend its
own are looked into as well.
-/

namespace Multigrad

inductive RecordClass where
  /-- The class that all others extend. -/
  | root
  | derived (name : String) (parent : RecordClass)
deriving DecidableEq, Repr

namespace RecordClass

/-- Whether a class is another one or extends it. -/
def isA : RecordClass → RecordClass → Bool
  | .root, other => decide (other = .root)
  | .derived name parent, other => decide (other = .derived name parent) || parent.isA other

def metadata : RecordClass := .derived "metadata" .root

def statistics : RecordClass := .derived "statistics" .root

end RecordClass

structure TypedRecord where
  recordClass : RecordClass
  fields : Fields Float

/-- What a record is compared with. -/
inductive Operand where
  | object (record : TypedRecord)
  /-- An object that is no record of any class. -/
  | foreign

namespace TypedRecord

/-- Equality; `shared` says that both sides are one and the same object. -/
def equal (shared : Bool) (a : TypedRecord) : Operand → Bool
  | .object b => decide (a.recordClass = b.recordClass) && Fields.equal shared a.fields b.fields
  | .foreign => false

/-- Inequality, which has a test of its own for the class of the other side. -/
def unequal (shared : Bool) (a : TypedRecord) : Operand → Bool
  | .object b =>
    if b.recordClass.isA a.recordClass then !a.equal shared (.object b) else true
  | .foreign => true

end TypedRecord

end Multigrad
