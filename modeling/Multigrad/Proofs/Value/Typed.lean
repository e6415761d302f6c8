import Multigrad.Proofs.Reading
import Multigrad.Value.Integer

/-!
# Well-typed values

The values that are vectors of doubles or of machine integers without any doubt, and that they are
read as what they are. Each vector may come as a list or as an array.
-/

namespace Multigrad.Value

/-! ### Lists of scalars -/

section Scalars

variable {R : Type} {items : List (Value R)}

/-- Neither a list nor an array. -/
def IsScalar (value : Value R) : Prop := value.shape? = some [] ∧ value.leaves = [value]

theorem shapes?_of_isScalar (hscalar : ∀ item ∈ items, item.IsScalar) :
    shapes? items = some (List.replicate items.length []) := by
  induction items with
  | nil => rfl
  | cons item rest ih =>
      rw [List.forall_mem_cons] at hscalar
      obtain ⟨⟨hshape, -⟩, hrest⟩ := hscalar
      rw [shapes?, hshape, ih hrest]
      rfl

theorem leavesOf_of_isScalar (hscalar : ∀ item ∈ items, item.IsScalar) :
    leavesOf items = items := by
  induction items with
  | nil => rfl
  | cons item rest ih =>
      rw [List.forall_mem_cons] at hscalar
      obtain ⟨⟨-, hleaves⟩, hrest⟩ := hscalar
      rw [leavesOf, hleaves, ih hrest, List.singleton_append]

theorem outerShape?_replicate (n : Nat) :
    outerShape? (List.replicate n ([] : List Nat)) = some [n] := by
  cases n with
  | zero => rfl
  | succ n => simp [List.replicate_succ, outerShape?]

theorem shape?_list (hscalar : ∀ item ∈ items, item.IsScalar) :
    (list items).shape? = some [items.length] := by
  rw [shape?, shapes?_of_isScalar hscalar]
  exact outerShape?_replicate _

theorem leaves_list (hscalar : ∀ item ∈ items, item.IsScalar) : (list items).leaves = items := by
  rw [leaves, leavesOf_of_isScalar hscalar]

end Scalars

/-! ### Vectors of doubles -/

/-- A number that is a double, or an integer that a double can stand for. -/
inductive IsReal : Value Float → Float → Prop where
  | real (r : Float) : IsReal (.real r) r
  | int {n : Int} {r : Float} (hrounds : Scalar.ofInt? n = .ok r) : IsReal (.int n) r

inductive IsVector : Value Float → List Float → Prop where
  | list {items : List (Value Float)} {entries : List Float}
      (hitems : List.Forall₂ IsReal items entries) : IsVector (.list items) entries
  | array (entries : List Float) : IsVector (.array [entries.length] (.reals entries)) entries

theorem IsReal.isScalar {value : Value Float} {r : Float} (hreal : IsReal value r) :
    value.IsScalar := by
  cases hreal with
  | real => exact ⟨rfl, rfl⟩
  | int => exact ⟨rfl, rfl⟩

theorem IsReal.entry? {value : Value Float} {r : Float} (hreal : IsReal value r) :
    value.entry? = .ok r := by
  cases hreal with
  | real => rfl
  | int hrounds => exact hrounds

theorem IsVector.grid? {value : Value Float} {entries : List Float}
    (hvector : IsVector value entries) : value.grid? = .ok ⟨[entries.length], entries⟩ := by
  cases hvector with
  | @list items entries hitems =>
      have hboth := hitems.imp fun _ _ hreal => And.intro hreal.isScalar hreal
      obtain ⟨hscalar, -⟩ := (List.forall₂_and_left items entries).mp hboth
      have hentries : items.mapM Value.entry? = .ok entries :=
        mapM_eq_ok.mpr (hitems.imp fun _ _ hreal => hreal.entry?)
      rw [Value.grid?, shape?_list hscalar, leaves_list hscalar]
      simp only [hentries, hitems.length_eq]
      rfl
  | array entries =>
      have hentries : (entryValues (.reals entries)).mapM Value.entry? = .ok entries := by
        refine mapM_eq_ok.mpr ?_
        rw [entryValues, List.forall₂_map_left_iff]
        exact List.forall₂_same.mpr fun _ _ => rfl
      simp only [Value.grid?, shape?, leaves, hentries]
      rfl

/-! ### Vectors of integers -/

def IsMachine (n : Int) : Prop := -0x8000000000000000 ≤ n ∧ n < 0x8000000000000000

instance (n : Int) : Decidable (IsMachine n) := inferInstanceAs (Decidable (_ ∧ _))

inductive IsIntegers : Value Float → List Int → Prop where
  | list {entries : List Int} (hmachine : ∀ n ∈ entries, IsMachine n) :
      IsIntegers (.list (entries.map .int)) entries
  | array {entries : List Int} (hmachine : ∀ n ∈ entries, IsMachine n) :
      IsIntegers (.array [entries.length] (.ints entries)) entries

theorem isMachine_of_machineInteger? {value : Value Float} {n : Int}
    (hread : machineInteger? value = .ok n) : IsMachine n := by
  obtain ⟨k, -, hrest⟩ := bind_eq_ok.mp hread
  split at hrest
  · rename_i hmachine
    obtain rfl := Except.ok.inj hrest
    exact hmachine
  · cases hrest

theorem isMachine_of_integerGrid? {value : Value Float} {shape : List Nat} {entries : List Int}
    (hread : integerGrid? value = .ok (shape, entries)) : ∀ n ∈ entries, IsMachine n := by
  unfold integerGrid? at hread
  split at hread
  · cases hread
  · obtain ⟨found, hfound, hpure⟩ := bind_eq_ok.mp hread
    obtain ⟨-, rfl⟩ := Prod.mk.inj (pure_eq_ok.mp hpure)
    intro n hn
    obtain ⟨leaf, -, hleaf⟩ := exists_of_mem_mapM hfound hn
    exact isMachine_of_machineInteger? hleaf

theorem machineInteger?_int {n : Int} (hmachine : IsMachine n) :
    machineInteger? (.int n) = .ok n := if_pos hmachine

theorem mapM_machineInteger? {entries : List Int} (hmachine : ∀ n ∈ entries, IsMachine n) :
    (entries.map Value.int).mapM machineInteger? = .ok entries := by
  rw [mapM_eq_ok, List.forall₂_map_left_iff]
  exact List.forall₂_same.mpr fun n hn => machineInteger?_int (hmachine n hn)

theorem castArraysOf_ints (entries : List Int) :
    castArraysOf (entries.map Value.int) = entries.map Value.int := by
  induction entries with
  | nil => rfl
  | cons n rest ih => exact congrArg (Value.int n :: ·) ih

theorem IsIntegers.integerGrid? {value : Value Float} {entries : List Int}
    (hintegers : IsIntegers value entries) :
    value.integerGrid? = .ok ([entries.length], entries) := by
  cases hintegers with
  | list hmachine =>
      have hscalar : ∀ item ∈ entries.map (Value.int (R := Float)), item.IsScalar := by
        intro item hitem
        obtain ⟨n, -, rfl⟩ := List.mem_map.mp hitem
        exact ⟨rfl, rfl⟩
      simp only [Value.integerGrid?, shape?_list hscalar, castArrays, castArraysOf_ints,
        leaves_list hscalar, mapM_machineInteger? hmachine, List.length_map]
      rfl
  | array hmachine =>
      simp only [Value.integerGrid?, shape?, castArrays, leaves, entryValues,
        mapM_machineInteger? hmachine]
      rfl

end Multigrad.Value
