import Multigrad.Value.Equality

/-!
# Equality of records

Records are equal when they have the same keys and equal values under each of them. Records inside
records are put on a list and compared later, so that nesting of any depth is no recursion.
-/

namespace Multigrad

mutual

/-- How many records there are in a value, those inside lists left out. -/
def Value.recordCount : Value Float → Nat
  | .record entries => recordCountOf entries + 1
  | _ => 0

def Value.recordCountOf : List (String × Value Float) → Nat
  | [] => 0
  | (_, value) :: rest => value.recordCount + recordCountOf rest

end

namespace Fields

def sameKeys (a b : Fields Float) : Bool :=
  a.keys.all b.keys.contains && b.keys.all a.keys.contains

/-- Pairs of records that are still to be compared. -/
abbrev Worklist := List (Fields Float × Fields Float)

/-- How many records are still to be compared, those inside the pairs included. -/
def Worklist.size : Worklist → Nat
  | [] => 0
  | (a, _) :: pending => Value.recordCountOf a + 1 + Worklist.size pending

/-- Compares the entries of a record with those of another one. Pairs of records under the same key
are put on the list for later; the answer is `none` when a pair of other values differs. -/
def compareEntries (shared : Bool) (other : Fields Float) :
    Fields Float → Worklist → Option Worklist
  | [], pending => some pending
  | (key, a) :: rest, pending =>
    match a, (other.get? key).getD .null with
    | .record as, .record bs => compareEntries shared other rest ((as, bs) :: pending)
    | a, b =>
      if Value.equalLeaves shared a b then compareEntries shared other rest pending else none

theorem size_compareEntries {shared : Bool} {other entries : Fields Float}
    {pending next : Worklist} (h : compareEntries shared other entries pending = some next) :
    Worklist.size next ≤ Value.recordCountOf entries + Worklist.size pending := by
  induction entries generalizing pending with
  | nil =>
    obtain rfl : pending = next := by simpa [compareEntries] using h
    simp [Value.recordCountOf]
  | cons entry rest ih =>
    obtain ⟨key, a⟩ := entry
    unfold compareEntries at h
    split at h
    · have := ih h
      simp only [Worklist.size, Value.recordCountOf, Value.recordCount] at this ⊢
      omega
    · split at h
      · have := ih h
        simp only [Value.recordCountOf]
        omega
      · simp at h

/-- Whether all pairs of a list are equal; `shared` says that the pairs are of one and the same
object. -/
def allEqual (shared : Bool) : Worklist → Bool
  | [] => true
  | (a, b) :: pending =>
    if sameKeys a b then
      match _ : compareEntries shared b a pending with
      | some next => allEqual shared next
      | none => false
    else false
termination_by pending => Worklist.size pending
decreasing_by
  have := size_compareEntries ‹compareEntries shared b a pending = some next›
  simp only [Worklist.size]
  omega

def equal (shared : Bool) (a b : Fields Float) : Bool := allEqual shared [(a, b)]

end Fields

end Multigrad
